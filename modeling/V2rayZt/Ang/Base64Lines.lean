import Mathlib.Data.List.GetD
import V2rayZt.Ang.Base64Codec

/-! The app's `Base64` at a line length that is a multiple of four, as the flag `DEFAULT` asks:
the text with a newline after every full line, which the decoder reads back past its newlines. -/
namespace V2rayZt.Ang.Base64

section Encoder
variable {source alphabet P tail : List UInt8} {a b c : UInt8} {off n : Nat}

end Encoder
/-! ### The characters of the text -/

section Decoder
-- the decodabet reads a newline as white space, as both of the app's do
variable (T : Tables) (hnl : T.decodabet.getD newLine.toNat 0 = whiteSpaceEnc) {source tail : List UInt8}
  {off len rest n : Nat}
include hnl

end Decoder
end V2rayZt.Ang.Base64
