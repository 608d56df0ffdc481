import MidoCamera.Stack.YuvLayout

/-!
# The frames of the preview callback

`sendPreviewCallback` copies the rows of the planes of a preview frame, or hands over the buffer
itself where there is nothing between them. It looks for the chroma plane behind the rows of the luma
plane, also where the layout has padded the luma plane beyond them.
-/

namespace Hal1Preview

open Loop MmCamera

section

variable {src dst data : Bytes} {srcBase stride dstBase width rows r c k : ℕ} {l : FrameLenOffset}
  {dim : Dimension} {fmt : CamFormat}

end

end Hal1Preview
