import V2rayZt.Lib.JavaArray
import V2rayZt.Lib.Radix64
import V2rayZt.Lib.Decimal

/-! The app's `Base64` class (`com.v2ray.ang.util.Base64`). Java bytes are `UInt8` bit patterns,
array accesses are checked, and `int` arithmetic is `Nat`: no length the callers pass reaches
`2^31`. -/
namespace V2rayZt.Ang.Base64

/-- What the codec's methods throw. -/
inductive Thrown where
  | arrayIndexOutOfBounds
  /-- `/ by zero`. -/
  | arithmetic
  | base64DecoderException (message : String)
  deriving DecidableEq, Repr

/-- `(byte) '='`. -/
def equalsSign : UInt8 := 61

/-- `(byte) '\n'`. -/
def newLine : UInt8 := 10

def alphabet : List UInt8 :=
  ['A', 'B', 'C', 'D', 'E', 'F', 'G', 'H', 'I', 'J', 'K', 'L', 'M', 'N', 'O', 'P', 'Q', 'R', 'S',
   'T', 'U', 'V', 'W', 'X', 'Y', 'Z', 'a', 'b', 'c', 'd', 'e', 'f', 'g', 'h', 'i', 'j', 'k', 'l',
   'm', 'n', 'o', 'p', 'q', 'r', 's', 't', 'u', 'v', 'w', 'x', 'y', 'z', '0', '1', '2', '3', '4',
   '5', '6', '7', '8', '9', '+', '/'].map Char.toUInt8

def websafeAlphabet : List UInt8 :=
  ['A', 'B', 'C', 'D', 'E', 'F', 'G', 'H', 'I', 'J', 'K', 'L', 'M', 'N', 'O', 'P', 'Q', 'R', 'S',
   'T', 'U', 'V', 'W', 'X', 'Y', 'Z', 'a', 'b', 'c', 'd', 'e', 'f', 'g', 'h', 'i', 'j', 'k', 'l',
   'm', 'n', 'o', 'p', 'q', 'r', 's', 't', 'u', 'v', 'w', 'x', 'y', 'z', '0', '1', '2', '3', '4',
   '5', '6', '7', '8', '9', '-', '_'].map Char.toUInt8

/-- Translates 7-bit ASCII to the value of a character, `-5` for whitespace,
`-1` for `=` and `-9` for the rest. -/
def decodabet : List Int8 :=
  [-9, -9, -9, -9, -9, -9, -9, -9, -9,  -- 0 - 8
   -5, -5,  -- tab and linefeed
   -9, -9,  -- 11 - 12
   -5,  -- carriage return
   -9, -9, -9, -9, -9, -9, -9, -9, -9, -9, -9, -9, -9,  -- 14 - 26
   -9, -9, -9, -9, -9,  -- 27 - 31
   -5,  -- space
   -9, -9, -9, -9, -9, -9, -9, -9, -9, -9,  -- 33 - 42
   62,  -- '+'
   -9, -9, -9,  -- 44 - 46
   63,  -- '/'
   52, 53, 54, 55, 56, 57, 58, 59, 60, 61,  -- '0' - '9'
   -9, -9, -9,  -- 58 - 60
   -1,  -- '='
   -9, -9, -9,  -- 62 - 64
   0, 1, 2, 3, 4, 5, 6, 7, 8, 9, 10, 11, 12, 13,  -- 'A' - 'N'
   14, 15, 16, 17, 18, 19, 20, 21, 22, 23, 24, 25,  -- 'O' - 'Z'
   -9, -9, -9, -9, -9, -9,  -- 91 - 96
   26, 27, 28, 29, 30, 31, 32, 33, 34, 35, 36, 37, 38,  -- 'a' - 'm'
   39, 40, 41, 42, 43, 44, 45, 46, 47, 48, 49, 50, 51,  -- 'n' - 'z'
   -9, -9, -9, -9, -9]  -- 123 - 127

def websafeDecodabet : List Int8 :=
  [-9, -9, -9, -9, -9, -9, -9, -9, -9,  -- 0 - 8
   -5, -5,  -- tab and linefeed
   -9, -9,  -- 11 - 12
   -5,  -- carriage return
   -9, -9, -9, -9, -9, -9, -9, -9, -9, -9, -9, -9, -9,  -- 14 - 26
   -9, -9, -9, -9, -9,  -- 27 - 31
   -5,  -- space
   -9, -9, -9, -9, -9, -9, -9, -9, -9, -9, -9, -9,  -- 33 - 44
   62,  -- '-'
   -9, -9,  -- 46 - 47
   52, 53, 54, 55, 56, 57, 58, 59, 60, 61,  -- '0' - '9'
   -9, -9, -9,  -- 58 - 60
   -1,  -- '='
   -9, -9, -9,  -- 62 - 64
   0, 1, 2, 3, 4, 5, 6, 7, 8, 9, 10, 11, 12, 13,  -- 'A' - 'N'
   14, 15, 16, 17, 18, 19, 20, 21, 22, 23, 24, 25,  -- 'O' - 'Z'
   -9, -9, -9, -9,  -- 91 - 94
   63,  -- '_'
   -9,  -- 96
   26, 27, 28, 29, 30, 31, 32, 33, 34, 35, 36, 37, 38,  -- 'a' - 'm'
   39, 40, 41, 42, 43, 44, 45, 46, 47, 48, 49, 50, 51,  -- 'n' - 'z'
   -9, -9, -9, -9, -9]  -- 123 - 127

def whiteSpaceEnc : Int8 := -5

def equalsSignEnc : Int8 := -1

/-- `Integer.MAX_VALUE`, the line length `encode(..., doPadding)` passes. -/
def integerMaxValue : Nat := 2147483647

/-- The value of a Java `byte`, as `+` prints it and as an index uses it. -/
def byteValue (b : UInt8) : Int := b.toInt8.toInt

/-- `(x << 24) >>> s` for a byte `x` promoted to `int`: the shift left drops
the sign bits of the promotion, leaving the byte's eight bits at the top of
the word. -/
def shiftedByte (x : UInt8) (s : Nat) : Nat := x.toNat <<< 24 >>> s

def load {α : Type*} (a : List α) (i : Nat) : Except Thrown α := JavaArray.load .arrayIndexOutOfBounds a i

def store {α : Type*} (a : List α) (i : Nat) (x : α) : Except Thrown (List α) :=
  JavaArray.store .arrayIndexOutOfBounds a i x

/-- `a[b]` for a byte `b`: the index is the byte's signed value, so a negative
byte throws. -/
def loadAt {α : Type*} (a : List α) (b : UInt8) : Except Thrown α :=
  if 0 ≤ byteValue b then load a (byteValue b).toNat else throw .arrayIndexOutOfBounds

/-! ### Encoding -/

/-- `encode3to4`: the `numSigBytes` bytes from `srcOffset` as four characters
at `destOffset`, padded with `=`. -/
def encode3to4 (source : List UInt8) (srcOffset numSigBytes : Nat) (destination : List UInt8)
    (destOffset : Nat) (alphabet : List UInt8) : Except Thrown (List UInt8) := do
  let b0 ← if numSigBytes > 0 then (shiftedByte · 8) <$> load source srcOffset else pure 0
  let b1 ← if numSigBytes > 1 then (shiftedByte · 16) <$> load source (srcOffset + 1) else pure 0
  let b2 ← if numSigBytes > 2 then (shiftedByte · 24) <$> load source (srcOffset + 2) else pure 0
  let inBuff := b0 ||| b1 ||| b2
  match numSigBytes with
  | 3 =>
    let destination ← store destination destOffset (← load alphabet (inBuff >>> 18))
    let destination ← store destination (destOffset + 1) (← load alphabet (inBuff >>> 12 &&& 0x3f))
    let destination ← store destination (destOffset + 2) (← load alphabet (inBuff >>> 6 &&& 0x3f))
    store destination (destOffset + 3) (← load alphabet (inBuff &&& 0x3f))
  | 2 =>
    let destination ← store destination destOffset (← load alphabet (inBuff >>> 18))
    let destination ← store destination (destOffset + 1) (← load alphabet (inBuff >>> 12 &&& 0x3f))
    let destination ← store destination (destOffset + 2) (← load alphabet (inBuff >>> 6 &&& 0x3f))
    store destination (destOffset + 3) equalsSign
  | 1 =>
    let destination ← store destination destOffset (← load alphabet (inBuff >>> 18))
    let destination ← store destination (destOffset + 1) (← load alphabet (inBuff >>> 12 &&& 0x3f))
    let destination ← store destination (destOffset + 2) equalsSign
    store destination (destOffset + 3) equalsSign
  | _ => pure destination

/-- The locals of the encoding loop. -/
structure EncodeState where
  outBuff : List UInt8
  e : Nat
  lineLength : Nat

/-- The `for (; d < len2; d += 3, e += 4)` loop of
`encode(source, off, len, alphabet, maxLineLength)`. `rest` is `len - d`, the
bytes not read yet, so the test `d < len - 2` is `rest ≥ 3`; it returns the
final `d` with the locals. -/
def encodeLoop (source : List UInt8) (off : Nat) (alphabet : List UInt8) (maxLineLength : Nat) :
    (rest d : Nat) → EncodeState → Except Thrown (Nat × EncodeState)
  | rest + 3, d, st => do
    let inBuff := shiftedByte (← load source (d + off)) 8 ||| shiftedByte (← load source (d + 1 + off)) 16
      ||| shiftedByte (← load source (d + 2 + off)) 24
    let outBuff ← store st.outBuff st.e (← load alphabet (inBuff >>> 18))
    let outBuff ← store outBuff (st.e + 1) (← load alphabet (inBuff >>> 12 &&& 0x3f))
    let outBuff ← store outBuff (st.e + 2) (← load alphabet (inBuff >>> 6 &&& 0x3f))
    let outBuff ← store outBuff (st.e + 3) (← load alphabet (inBuff &&& 0x3f))
    let lineLength := st.lineLength + 4
    -- the end of a line: a newline after the group, and `e` moves past it
    let st : EncodeState ← if lineLength = maxLineLength then do
        let outBuff ← store outBuff (st.e + 4) newLine
        pure ⟨outBuff, st.e + 1, 0⟩
      else pure ⟨outBuff, st.e, lineLength⟩
    encodeLoop source off alphabet maxLineLength rest (d + 3) { st with e := st.e + 4 }
  | _, d, st => pure (d, st)

/-- `encode(source, off, len, alphabet, maxLineLength)`: the output buffer,
and the final `e` that the closing `assert (e == outBuff.length)` compares
with its length (assertions are off on Android, so nothing checks it). -/
def encodeLines (source : List UInt8) (off len : Nat) (alphabet : List UInt8) (maxLineLength : Nat) :
    Except Thrown (List UInt8 × Nat) := do
  if maxLineLength = 0 then throw .arithmetic
  let lenDiv3 := (len + 2) / 3
  let len43 := lenDiv3 * 4
  let outBuff := List.replicate (len43 + len43 / maxLineLength) 0
  let (d, st) ← encodeLoop source off alphabet maxLineLength len 0 ⟨outBuff, 0, 0⟩
  if d < len then
    let outBuff ← encode3to4 source (d + off) (len - d) st.outBuff st.e alphabet
    let lineLength := st.lineLength + 4
    if lineLength = maxLineLength then
      let outBuff ← store outBuff (st.e + 4) newLine
      pure (outBuff, st.e + 1 + 4)
    else pure (outBuff, st.e + 4)
  else pure (st.outBuff, st.e)

/-- The `while (doPadding == false && outLen > 0)` loop: the length left once
the trailing `=` are dropped. -/
def stripPadding (outBuff : List UInt8) : (outLen : Nat) → Except Thrown Nat
  | 0 => pure 0
  | outLen + 1 => do
    if (← load outBuff outLen) ≠ equalsSign then pure (outLen + 1)
    else stripPadding outBuff outLen

/-- `encode(source, off, len, alphabet, doPadding)`: one line, with or
without its padding. -/
def encodeSegment (source : List UInt8) (off len : Nat) (alphabet : List UInt8) (doPadding : Bool) :
    Except Thrown (List UInt8) := do
  let (outBuff, _) ← encodeLines source off len alphabet integerMaxValue
  let outLen ← if doPadding then pure outBuff.length else stripPadding outBuff outBuff.length
  pure (outBuff.take outLen)

/-- `encode(byte[] source)`. -/
def encode (source : List UInt8) : Except Thrown (List UInt8) :=
  encodeSegment source 0 source.length alphabet true

/-- `encodeWebSafe(byte[] source, boolean doPadding)`. -/
def encodeWebSafe (source : List UInt8) (doPadding : Bool) : Except Thrown (List UInt8) :=
  encodeSegment source 0 source.length websafeAlphabet doPadding

/-! ### Decoding -/

/-- `decode4to3`: the four characters from `srcOffset` as up to three bytes at
`destOffset`; returns how many it wrote, with the destination. The `>>` of
the three-byte case sees a word below `2^26`, where it is `>>>`. -/
def decode4to3 (source : List UInt8) (srcOffset : Nat) (destination : List UInt8) (destOffset : Nat)
    (decodabet : List Int8) : Except Thrown (Nat × List UInt8) := do
  if (← load source (srcOffset + 2)) = equalsSign then
    let outBuff := shiftedByte (← loadAt decodabet (← load source srcOffset)).toUInt8 6
      ||| shiftedByte (← loadAt decodabet (← load source (srcOffset + 1))).toUInt8 12
    let destination ← store destination destOffset (UInt8.ofNat (outBuff >>> 16))
    pure (1, destination)
  else do
    if (← load source (srcOffset + 3)) = equalsSign then
      let outBuff := shiftedByte (← loadAt decodabet (← load source srcOffset)).toUInt8 6
        ||| shiftedByte (← loadAt decodabet (← load source (srcOffset + 1))).toUInt8 12
        ||| shiftedByte (← loadAt decodabet (← load source (srcOffset + 2))).toUInt8 18
      let destination ← store destination destOffset (UInt8.ofNat (outBuff >>> 16))
      let destination ← store destination (destOffset + 1) (UInt8.ofNat (outBuff >>> 8))
      pure (2, destination)
    else
      let outBuff := shiftedByte (← loadAt decodabet (← load source srcOffset)).toUInt8 6
        ||| shiftedByte (← loadAt decodabet (← load source (srcOffset + 1))).toUInt8 12
        ||| shiftedByte (← loadAt decodabet (← load source (srcOffset + 2))).toUInt8 18
        ||| shiftedByte (← loadAt decodabet (← load source (srcOffset + 3))).toUInt8 24
      let destination ← store destination destOffset (UInt8.ofNat (outBuff >>> 16))
      let destination ← store destination (destOffset + 1) (UInt8.ofNat (outBuff >>> 8))
      let destination ← store destination (destOffset + 2) (UInt8.ofNat outBuff)
      pure (3, destination)

/-- The locals of the decoding loop. -/
structure DecodeState where
  outBuff : List UInt8
  outBuffPosn : Nat
  b4 : List UInt8
  b4Posn : Nat

def decoderException (message : String) : Thrown := .base64DecoderException message

/-- The `for (i = 0; i < len; i++)` loop of `decode`, from `i` on; `rest` is
`len - i`. A `break` returns the locals as they are. -/
def decodeLoop (source : List UInt8) (off len : Nat) (decodabet : List Int8) :
    (rest i : Nat) → DecodeState → Except Thrown DecodeState
  | 0, _, st => pure st
  | rest + 1, i, st => do
    let sbiCrop := (← load source (i + off)) &&& 0x7f
    let sbiDecode ← loadAt decodabet sbiCrop
    if sbiDecode ≥ whiteSpaceEnc then
      if sbiDecode ≥ equalsSignEnc then
        if sbiCrop = equalsSign then
          let bytesLeft := len - i
          let lastByte := (← load source (len - 1 + off)) &&& 0x7f
          if st.b4Posn = 0 ∨ st.b4Posn = 1 then
            throw (decoderException ("invalid padding byte \x27=\x27 at byte offset " ++ Decimal.render i))
          else if (st.b4Posn = 3 ∧ bytesLeft > 2) ∨ (st.b4Posn = 4 ∧ bytesLeft > 1) then
            throw (decoderException ("padding byte \x27=\x27 falsely signals end of encoded value " ++
              "at offset " ++ Decimal.render i))
          else if lastByte ≠ equalsSign ∧ lastByte ≠ newLine then
            throw (decoderException "encoded value has invalid trailing byte")
          else pure st
        else
          let b4 ← store st.b4 st.b4Posn sbiCrop
          let b4Posn := st.b4Posn + 1
          if b4Posn = 4 then
            let (n, outBuff) ← decode4to3 b4 0 st.outBuff st.outBuffPosn decodabet
            decodeLoop source off len decodabet rest (i + 1) ⟨outBuff, st.outBuffPosn + n, b4, 0⟩
          else decodeLoop source off len decodabet rest (i + 1) { st with b4, b4Posn }
      -- whitespace is skipped
      else decodeLoop source off len decodabet rest (i + 1) st
    else
      throw (decoderException ("Bad Base64 input character at " ++ Decimal.render i ++ ": " ++
        Decimal.render (byteValue (← load source (i + off))) ++ "(decimal)"))

/-- The end of `decode`, after its loop: a tail of two or three characters is
padded with `=` and decoded, then the bytes written are copied out. -/
def decodeFinish (len : Nat) (decodabet : List Int8) (st : DecodeState) : Except Thrown (List UInt8) := do
  let st ← if st.b4Posn ≠ 0 then do
      if st.b4Posn = 1 then
        throw (decoderException ("single trailing character at offset " ++ Decimal.render ((len : Int) - 1)))
      let b4 ← store st.b4 st.b4Posn equalsSign
      let (n, outBuff) ← decode4to3 b4 0 st.outBuff st.outBuffPosn decodabet
      pure { st with outBuff, outBuffPosn := st.outBuffPosn + n, b4, b4Posn := st.b4Posn + 1 }
    else pure st
  JavaArray.copyOf .arrayIndexOutOfBounds st.outBuff st.outBuffPosn

/-- `decode(source, off, len, decodabet)`. -/
def decodeSegment (source : List UInt8) (off len : Nat) (decodabet : List Int8) :
    Except Thrown (List UInt8) := do
  let len34 := len * 3 / 4
  let st ← decodeLoop source off len decodabet len 0 ⟨List.replicate (2 + len34) 0, 0, List.replicate 4 0, 0⟩
  decodeFinish len decodabet st

/-- `decode(byte[] source)`, and `decode(String s)` on the bytes of `s`: a
`String` the encoder returns is the list of its ASCII bytes. -/
def decode (source : List UInt8) : Except Thrown (List UInt8) :=
  decodeSegment source 0 source.length decodabet

/-- `decodeWebSafe(byte[] source)`, and `decodeWebSafe(String s)`. -/
def decodeWebSafe (source : List UInt8) : Except Thrown (List UInt8) :=
  decodeSegment source 0 source.length websafeDecodabet

/-! ### The tables -/

/-- An alphabet with the decodabet that reads it back. -/
structure Tables where
  alphabet : List UInt8
  decodabet : List Int8
  length_alphabet : alphabet.length = 64
  length_decodabet : decodabet.length = 128
  /-- Every character is 7-bit and not `=`, and decodes to its place. -/
  inverse : ∀ s : Fin 64, (alphabet.getD s 0).toNat < 128 ∧ alphabet.getD s 0 ≠ equalsSign ∧
    decodabet.getD (alphabet.getD s 0).toNat 0 = Int8.ofNat s
  /-- `=` is the padding. -/
  equals : decodabet.getD equalsSign.toNat 0 = equalsSignEnc

def standard : Tables := ⟨alphabet,decodabet,rfl,rfl,by decide,rfl⟩

def webSafe : Tables := ⟨websafeAlphabet,websafeDecodabet,rfl,rfl,by decide,rfl⟩

/-- The Base64 text of a list of bytes, as RFC 4648 pads it. -/
def encodeSpec (alphabet : List UInt8) (xs : List UInt8) : List UInt8 :=
  Radix64.encode (alphabet.getD · 0) equalsSign (xs.map UInt8.toNat)

/-- The text without its padding. -/
def encodeSpecNoPad (alphabet : List UInt8) (xs : List UInt8) : List UInt8 :=
  Radix64.encodeNoPad (alphabet.getD · 0) (xs.map UInt8.toNat)

/-! ### Bytes, words and array accesses -/

theorem byteValue_ofNat : ∀ n < 128, byteValue (UInt8.ofNat n) = n := by decide

theorem byteValue_of_lt {c : UInt8} (hc : c.toNat < 128) : byteValue c = c.toNat := by
  have h := byteValue_ofNat c.toNat hc
  rwa [UInt8.ofNat_toNat] at h

theorem and_7f_of_lt {c : UInt8} (hc : c.toNat < 128) : c &&& 0x7f = c := by
  apply UInt8.toNat_inj.1
  rw [UInt8.toNat_and,show (0x7f : UInt8).toNat = 2^7 - 1 from rfl,Nat.and_two_pow_sub_one_eq_mod]
  exact Nat.mod_eq_of_lt hc

theorem shiftedByte_eq (x : UInt8) {s : Nat} (hs : s ≤ 24) : shiftedByte x s = x.toNat * 2^(24 - s) :=
  Radix64.shl24_ushr _ hs

/-- The word `encode3to4` and the encoding loop pack three bytes into. -/
theorem inBuff_eq (a b c : UInt8) :
    shiftedByte a 8 ||| shiftedByte b 16 ||| shiftedByte c 24 = Radix64.group a.toNat b.toNat c.toNat := by
  have hb : b.toNat * 2^8 < 2^16 := by have := b.toNat_lt; omega
  have hc : c.toNat < 2^8 := c.toNat_lt
  rw [shiftedByte_eq a (by omega),shiftedByte_eq b (by omega),shiftedByte_eq c (by omega)]
  simp only [Nat.reduceSub,Nat.pow_zero,Nat.mul_one]
  rw [Radix64.mul_two_pow_or _ hb,show a.toNat * 2^16 + b.toNat * 2^8 = (a.toNat * 2^8 + b.toNat) * 2^8 by omega,
    Radix64.mul_two_pow_or _ hc,Radix64.group]
  omega

theorem load_of_lt {α : Type} {a : List α} {i : Nat} (h : i < a.length) : load a i = pure a[i] :=
  JavaArray.load_of_lt h

theorem load_of_getElem? {α : Type} {l : List α} {i : Nat} {x : α} (h : l[i]? = some x) : load l i = pure x := by
  simp only [load,JavaArray.load,h]

theorem load_of_drop_eq {α : Type} {l t : List α} {i : Nat} {x : α} (h : l.drop i = x :: t) : load l i = pure x := by
  have h0 : (l.drop i)[0]? = some x := by rw [h]; rfl
  rw [List.getElem?_drop,Nat.add_zero] at h0
  exact load_of_getElem? h0

theorem load_getD {α : Type} {a : List α} {i : Nat} (h : i < a.length) (z : α) : load a i = pure (a.getD i z) := by
  rw [load_of_lt h,List.getD_eq_getElem?_getD,List.getElem?_eq_getElem h,Option.getD_some]

/-- A store at the end of the prefix written so far. -/
theorem store_append_replicate {α : Type} (P : List α) (z x : α) (m : Nat) {i : Nat} (hi : i = P.length) :
    store (P ++ List.replicate (m + 1) z) i x = pure ((P ++ [x]) ++ List.replicate m z) := by
  subst hi
  rw [store,JavaArray.store_of_lt (by simp),JavaArray.set_append_replicate]

/-! ### Encoding -/

/-- The characters of a group's sextets. -/
def groupChars (alphabet : List UInt8) (g : Nat) : List UInt8 := (Radix64.sextets g).map (alphabet.getD · 0)

@[simp] theorem length_groupChars (alphabet : List UInt8) (g : Nat) : (groupChars alphabet g).length = 4 := rfl

@[simp] theorem encodeSpec_nil (alphabet : List UInt8) : encodeSpec alphabet [] = [] := rfl

@[simp] theorem encodeSpecNoPad_nil (alphabet : List UInt8) : encodeSpecNoPad alphabet [] = [] := rfl

theorem length_encodeSpec (alphabet xs : List UInt8) :
    (encodeSpec alphabet xs).length = 4 * ((xs.length + 2) / 3) := by
  rw [encodeSpec,Radix64.length_encode,List.length_map]

/-- The padded text is the unpadded one followed by its `=`. -/
theorem encodeSpec_eq_encodeSpecNoPad (alphabet xs : List UInt8) :
    encodeSpec alphabet xs = encodeSpecNoPad alphabet xs ++ List.replicate (Radix64.padCount xs.length) equalsSign := by
  rw [encodeSpec,encodeSpecNoPad,Radix64.encode_eq_encodeNoPad,List.length_map]

theorem encodeSpec_cons3 (alphabet : List UInt8) (a b c : UInt8) (xs : List UInt8) :
    encodeSpec alphabet (a :: b :: c :: xs) =
      groupChars alphabet (Radix64.group a.toNat b.toNat c.toNat) ++ encodeSpec alphabet xs := by
  simp only [encodeSpec,List.map_cons,Radix64.encode,groupChars]

section Encoding
variable {source alphabet P tail : List UInt8} {a b c : UInt8}

theorem load_mod64 (hA : alphabet.length = 64) (x : Nat) : load alphabet (x % 64) = pure (alphabet.getD (x % 64) 0) :=
  load_getD (by rw [hA]; exact Nat.mod_lt x (by decide)) 0

theorem ushr_18 {g : Nat} (hg : g < 2^24) : g >>> 18 = g / 2^18 % 64 := by
  rw [Nat.shiftRight_eq_div_pow]
  omega

/-- One turn of the encoding loop away from the end of a line: the group's
four characters go after the prefix written so far. -/
theorem encodeLoop_group {off L rest d m lineLength : Nat} (hA : alphabet.length = 64)
    (hsrc : source.drop (d + off) = a :: b :: c :: tail) (hline : lineLength + 4 ≠ L) :
    encodeLoop source off alphabet L (rest + 3) d ⟨P ++ List.replicate (m + 4) 0, P.length, lineLength⟩ =
      encodeLoop source off alphabet L rest (d + 3)
        ⟨P ++ groupChars alphabet (Radix64.group a.toNat b.toNat c.toNat) ++ List.replicate m 0,
          P.length + 4, lineLength + 4⟩ := by
  have h1 : source.drop (d + 1 + off) = b :: c :: tail := by
    rw [show d + 1 + off = (d + off) + 1 by omega,← List.drop_drop,hsrc]
    rfl
  have h2 : source.drop (d + 2 + off) = c :: tail := by
    rw [show d + 2 + off = (d + off) + 2 by omega,← List.drop_drop,hsrc]
    rfl
  have hg := Radix64.group_lt a.toNat_lt b.toNat_lt c.toNat_lt
  simp only [encodeLoop,load_of_drop_eq hsrc,load_of_drop_eq h1,load_of_drop_eq h2,pure_bind,inBuff_eq,
    ushr_18 hg,Radix64.and_63,if_neg hline]
  simp only [Nat.shiftRight_eq_div_pow,load_mod64 hA,store_append_replicate,List.length_append,
    List.length_singleton,pure_bind,groupChars,Radix64.sextets]
  simp

/-- The last group of two bytes: three characters and one `=`. -/
theorem encode3to4_two {srcOffset m e : Nat} (hA : alphabet.length = 64) (hsrc : source.drop srcOffset = a :: b :: tail)
    (he : e = P.length) :
    encode3to4 source srcOffset 2 (P ++ List.replicate (m + 4) 0) e alphabet =
      pure (P ++ Radix64.encode (alphabet.getD · 0) equalsSign [a.toNat, b.toNat] ++ List.replicate m 0) := by
  have h1 : source.drop (srcOffset + 1) = b :: tail := by
    rw [← List.drop_drop,hsrc]
    rfl
  have hg := Radix64.group_lt a.toNat_lt b.toNat_lt (by decide : (0 : Nat) < 256)
  have hw : shiftedByte a 8 ||| shiftedByte b 16 ||| 0 = Radix64.group a.toNat b.toNat 0 := inBuff_eq a b 0
  subst he
  simp only [encode3to4,load_of_drop_eq hsrc,load_of_drop_eq h1,map_pure,pure_bind,hw,ushr_18 hg,
    Radix64.and_63,show (2 : Nat) > 0 from by decide,show (2 : Nat) > 1 from by decide,
    show ¬ (2 : Nat) > 2 from by decide,if_true,if_false]
  simp only [Nat.shiftRight_eq_div_pow,load_mod64 hA,store_append_replicate,List.length_append,
    List.length_singleton,pure_bind,Radix64.encode,Radix64.sextets]
  simp

/-- The last group of one byte: two characters and two `=`. -/
theorem encode3to4_one {srcOffset m e : Nat} (hA : alphabet.length = 64) (hsrc : source.drop srcOffset = a :: tail)
    (he : e = P.length) :
    encode3to4 source srcOffset 1 (P ++ List.replicate (m + 4) 0) e alphabet =
      pure (P ++ Radix64.encode (alphabet.getD · 0) equalsSign [a.toNat] ++ List.replicate m 0) := by
  have hg := Radix64.group_lt a.toNat_lt (by decide : (0 : Nat) < 256) (by decide : (0 : Nat) < 256)
  have hw : shiftedByte a 8 ||| 0 ||| 0 = Radix64.group a.toNat 0 0 := inBuff_eq a 0 0
  subst he
  simp only [encode3to4,load_of_drop_eq hsrc,map_pure,pure_bind,hw,ushr_18 hg,
    Radix64.and_63,show (1 : Nat) > 0 from by decide,show ¬ (1 : Nat) > 1 from by decide,
    show ¬ (1 : Nat) > 2 from by decide,if_true,if_false]
  simp only [Nat.shiftRight_eq_div_pow,load_mod64 hA,store_append_replicate,List.length_append,
    List.length_singleton,pure_bind,Radix64.encode,Radix64.sextets]
  simp

theorem getElem?_of_take_eq {l t : List UInt8} {n j : Nat} (h : l.take n = t) (hj : j < n) : l[j]? = t[j]? := by
  rw [← h,List.getElem?_take,if_pos hj]

/-- The padding loop stops after the last byte that is not `=`. -/
theorem stripPadding_append {l u : List UInt8} (hu : ∀ c ∈ u.getLast?, c ≠ equalsSign) :
    ∀ k, l.take (u.length + k) = u ++ List.replicate k equalsSign → stripPadding l (u.length + k) = pure u.length
  | 0, h => by
    rcases List.eq_nil_or_concat u with rfl | ⟨u',c,rfl⟩
    · rfl
    · rw [List.concat_eq_append] at hu h ⊢
      have hc : c ≠ equalsSign := hu c (by simp)
      have hget : l[u'.length]? = some c := by
        rw [getElem?_of_take_eq h (by simp)]
        simp
      simp only [List.length_append,List.length_singleton,Nat.add_zero,stripPadding,load_of_getElem? hget,
        pure_bind,ne_eq,hc,not_false_eq_true,if_true]
  | k + 1, h => by
    have hget : l[u.length + k]? = some equalsSign := by
      rw [getElem?_of_take_eq h (by omega),List.getElem?_append_right (by omega)]
      simp
    have htake : l.take (u.length + k) = u ++ List.replicate k equalsSign := by
      have h2 := congrArg (List.take (u.length + k)) h
      rw [List.take_take,Nat.min_eq_left (by omega),List.replicate_succ',← List.append_assoc,
        List.take_append_of_le_length (by simp),
        List.take_of_length_le (l := u ++ List.replicate k equalsSign) (by simp)] at h2
      exact h2
    rw [← Nat.add_assoc,stripPadding,load_of_getElem? hget,pure_bind,if_neg (by simp)]
    exact stripPadding_append hu k htake

theorem encodeLoop_of_lt {off L rest d : Nat} {st : EncodeState} (h : rest < 3) :
    encodeLoop source off alphabet L rest d st = pure (d, st) := by
  match rest, h with
  | 0, _ | 1, _ | 2, _ => rfl

end Encoding

/-! ### Decoding -/

/-- The character of sextet `s`. -/
def Tables.sym (T : Tables) (s : Nat) : UInt8 := T.alphabet.getD s 0

theorem int8_ofNat_lt64 : ∀ s : Fin 64,
    whiteSpaceEnc ≤ Int8.ofNat s ∧ equalsSignEnc ≤ Int8.ofNat s ∧ (Int8.ofNat s).toUInt8.toNat = s := by
  decide

namespace Tables
variable (T : Tables) {s : Nat}

theorem sym_lt (hs : s < 64) : (T.sym s).toNat < 128 := (T.inverse ⟨s,hs⟩).1

theorem sym_ne (hs : s < 64) : T.sym s ≠ equalsSign := (T.inverse ⟨s,hs⟩).2.1

theorem crop_sym (hs : s < 64) : T.sym s &&& 0x7f = T.sym s := and_7f_of_lt (T.sym_lt hs)

theorem loadAt_equalsSign : loadAt T.decodabet equalsSign = pure equalsSignEnc := by
  have hidx : equalsSign.toNat < T.decodabet.length := by rw [T.length_decodabet]; decide
  rw [loadAt,byteValue_of_lt (by decide),if_pos (Int.natCast_nonneg _),Int.toNat_natCast,load_getD hidx 0]
  exact congrArg pure T.equals

theorem loadAt_sym (hs : s < 64) : loadAt T.decodabet (T.sym s) = pure (Int8.ofNat s) := by
  have hlt := T.sym_lt hs
  have hidx : (T.sym s).toNat < T.decodabet.length := by rw [T.length_decodabet]; exact hlt
  rw [loadAt,byteValue_of_lt hlt,if_pos (Int.natCast_nonneg _),Int.toNat_natCast,load_getD hidx 0]
  exact congrArg pure (T.inverse ⟨s,hs⟩).2.2

end Tables

theorem shiftedByte_sextet {s k : Nat} (hs : s < 64) (hk : k ≤ 24) :
    shiftedByte (Int8.ofNat s).toUInt8 k = s * 2^(24 - k) := by
  rw [shiftedByte_eq _ hk,(int8_ofNat_lt64 ⟨s,hs⟩).2.2]

section Decoding
variable (T : Tables) {s0 s1 s2 s3 m p : Nat} {W : List UInt8}

/-- The four reads of `b4` in `decode4to3`. -/
theorem load_b4 (x0 x1 x2 x3 : UInt8) :
    load [x0,x1,x2,x3] 0 = pure x0 ∧ load [x0,x1,x2,x3] 1 = pure x1 ∧
      load [x0,x1,x2,x3] 2 = pure x2 ∧ load [x0,x1,x2,x3] 3 = pure x3 :=
  ⟨rfl,rfl,rfl,rfl⟩

/-- A whole group of four characters: three bytes. -/
theorem decode4to3_three (h0 : s0 < 64) (h1 : s1 < 64) (h2 : s2 < 64) (h3 : s3 < 64) (hp : p = W.length) :
    decode4to3 [T.sym s0, T.sym s1, T.sym s2, T.sym s3] 0 (W ++ List.replicate (m + 3) 0) p T.decodabet =
      pure (3, W ++ [UInt8.ofNat (Radix64.ofSextets s0 s1 s2 s3 >>> 16),
        UInt8.ofNat (Radix64.ofSextets s0 s1 s2 s3 >>> 8), UInt8.ofNat (Radix64.ofSextets s0 s1 s2 s3)] ++
        List.replicate m 0) := by
  subst hp
  obtain ⟨l0,l1,l2,l3⟩ := load_b4 (T.sym s0) (T.sym s1) (T.sym s2) (T.sym s3)
  simp only [decode4to3,l0,l1,l2,l3,T.loadAt_sym h0,T.loadAt_sym h1,T.loadAt_sym h2,T.loadAt_sym h3,pure_bind,
    if_neg (T.sym_ne h2),if_neg (T.sym_ne h3),shiftedByte_sextet (k := 6) h0 (by decide),
    shiftedByte_sextet (k := 12) h1 (by decide),shiftedByte_sextet (k := 18) h2 (by decide),
    shiftedByte_sextet (k := 24) h3 (by decide)]
  simp only [Nat.reduceSub,Nat.pow_zero,Nat.mul_one,Radix64.or_sextets h1 h2 h3,store_append_replicate,
    List.length_append,List.length_singleton,pure_bind]
  simp only [List.append_assoc,List.cons_append,List.nil_append]

/-- A group padded once: two bytes. -/
theorem decode4to3_two (h0 : s0 < 64) (h1 : s1 < 64) (h2 : s2 < 64) (hp : p = W.length) :
    decode4to3 [T.sym s0, T.sym s1, T.sym s2, equalsSign] 0 (W ++ List.replicate (m + 2) 0) p T.decodabet =
      pure (2, W ++ [UInt8.ofNat (Radix64.ofSextets s0 s1 s2 0 >>> 16),
        UInt8.ofNat (Radix64.ofSextets s0 s1 s2 0 >>> 8)] ++ List.replicate m 0) := by
  subst hp
  obtain ⟨l0,l1,l2,l3⟩ := load_b4 (T.sym s0) (T.sym s1) (T.sym s2) equalsSign
  have hor := @Radix64.or_sextets s0 s1 s2 0 h1 h2 (by decide)
  rw [Nat.or_zero] at hor
  simp only [decode4to3,l0,l1,l2,l3,T.loadAt_sym h0,T.loadAt_sym h1,T.loadAt_sym h2,pure_bind,
    if_neg (T.sym_ne h2),if_true,shiftedByte_sextet (k := 6) h0 (by decide),
    shiftedByte_sextet (k := 12) h1 (by decide),shiftedByte_sextet (k := 18) h2 (by decide)]
  simp only [Nat.reduceSub,hor,store_append_replicate,List.length_append,List.length_singleton,pure_bind]
  simp only [List.append_assoc,List.cons_append,List.nil_append]

/-- A group padded twice: one byte; the fourth character is not read. -/
theorem decode4to3_one (h0 : s0 < 64) (h1 : s1 < 64) (z : UInt8) (hp : p = W.length) :
    decode4to3 [T.sym s0, T.sym s1, equalsSign, z] 0 (W ++ List.replicate (m + 1) 0) p T.decodabet =
      pure (1, W ++ [UInt8.ofNat (Radix64.ofSextets s0 s1 0 0 >>> 16)] ++ List.replicate m 0) := by
  subst hp
  obtain ⟨l0,l1,l2,-⟩ := load_b4 (T.sym s0) (T.sym s1) equalsSign z
  have hor := @Radix64.or_sextets s0 s1 0 0 h1 (by decide) (by decide)
  rw [Nat.zero_mul,Nat.or_zero,Nat.or_zero] at hor
  simp only [decode4to3,l0,l1,l2,T.loadAt_sym h0,T.loadAt_sym h1,pure_bind,if_true,
    shiftedByte_sextet (k := 6) h0 (by decide),shiftedByte_sextet (k := 12) h1 (by decide)]
  simp only [Nat.reduceSub,hor,store_append_replicate,pure_bind]

theorem set_four {b : List UInt8} (hb : b.length = 4) (x0 x1 x2 x3 : UInt8) :
    (((b.set 0 x0).set 1 x1).set 2 x2).set 3 x3 = [x0,x1,x2,x3] := by
  match b, hb with
  | [_,_,_,_], _ => rfl

theorem set_two {b : List UInt8} (hb : b.length = 4) (x0 x1 : UInt8) :
    ∃ y2 y3, (b.set 0 x0).set 1 x1 = [x0,x1,y2,y3] := by
  match b, hb with
  | [_,_,y2,y3], _ => exact ⟨y2,y3,rfl⟩

theorem set_three {b : List UInt8} (hb : b.length = 4) (x0 x1 x2 : UInt8) :
    ∃ y3, ((b.set 0 x0).set 1 x1).set 2 x2 = [x0,x1,x2,y3] := by
  match b, hb with
  | [_,_,_,y3], _ => exact ⟨y3,rfl⟩

section Loop
variable {source tail : List UInt8} {off len rest i s : Nat} {st : DecodeState}

/-- A character of the alphabet that does not complete a group goes into `b4`. -/
theorem decodeLoop_sym (hs : s < 64) (hsrc : source.drop (i + off) = T.sym s :: tail)
    (hb4 : st.b4Posn < st.b4.length) (hpos : st.b4Posn + 1 ≠ 4) :
    decodeLoop source off len T.decodabet (rest + 1) i st =
      decodeLoop source off len T.decodabet rest (i + 1)
        { st with b4 := st.b4.set st.b4Posn (T.sym s), b4Posn := st.b4Posn + 1 } := by
  obtain ⟨hw,he,-⟩ := int8_ofNat_lt64 ⟨s,hs⟩
  simp only [decodeLoop,load_of_drop_eq hsrc,pure_bind,T.crop_sym hs,T.loadAt_sym hs,ge_iff_le,
    if_pos hw,if_pos he,if_neg (T.sym_ne hs),store,JavaArray.store_of_lt hb4,if_neg hpos]

/-- The character that completes a group: `decode4to3` writes the group out. -/
theorem decodeLoop_sym_group (hs : s < 64) (hsrc : source.drop (i + off) = T.sym s :: tail)
    (hb4 : st.b4.length = 4) (hpos : st.b4Posn = 3) :
    decodeLoop source off len T.decodabet (rest + 1) i st =
      decode4to3 (st.b4.set 3 (T.sym s)) 0 st.outBuff st.outBuffPosn T.decodabet >>= fun r =>
        decodeLoop source off len T.decodabet rest (i + 1) ⟨r.2,st.outBuffPosn + r.1,st.b4.set 3 (T.sym s),0⟩ := by
  obtain ⟨hw,he,-⟩ := int8_ofNat_lt64 ⟨s,hs⟩
  simp only [decodeLoop,load_of_drop_eq hsrc,pure_bind,T.crop_sym hs,T.loadAt_sym hs,ge_iff_le,
    if_pos hw,if_pos he,if_neg (T.sym_ne hs),store,hpos,JavaArray.store_of_lt (show 3 < st.b4.length by omega),
    if_true]

/-- `=` after two or three characters of a group, in an input that ends with
`=` or a newline: the loop breaks with the locals as they are. -/
theorem decodeLoop_equals (hsrc : source.drop (i + off) = equalsSign :: tail)
    (hlast : source[len - 1 + off]? = some equalsSign ∨ source[len - 1 + off]? = some newLine)
    (hpos : st.b4Posn = 2 ∨ (st.b4Posn = 3 ∧ len - i ≤ 2)) :
    decodeLoop source off len T.decodabet (rest + 1) i st = pure st := by
  have hcrop : equalsSign &&& 0x7f = equalsSign := by decide
  have hcropNl : newLine &&& 0x7f = newLine := by decide
  have hpos01 : ¬ (st.b4Posn = 0 ∨ st.b4Posn = 1) := by omega
  have hfalse : ¬ ((st.b4Posn = 3 ∧ len - i > 2) ∨ (st.b4Posn = 4 ∧ len - i > 1)) := by omega
  -- the last byte is read only by the check for a trailing byte other than `=` or a newline
  rcases hlast with hlast | hlast <;>
  simp only [decodeLoop,load_of_drop_eq hsrc,load_of_getElem? hlast,pure_bind,hcrop,hcropNl,T.loadAt_equalsSign,
    ge_iff_le,show whiteSpaceEnc ≤ equalsSignEnc from by decide,show equalsSignEnc ≤ equalsSignEnc from by decide,
    if_true,if_neg hpos01,if_neg hfalse,ne_eq,not_true_eq_false,false_and,and_false,if_false]

end Loop

theorem decodeFinish_zero {len : Nat} {decodabet : List Int8} {O b4 : List UInt8} {p : Nat} :
    decodeFinish len decodabet ⟨O,p,b4,0⟩ = JavaArray.copyOf .arrayIndexOutOfBounds O p := rfl

/-- A tail of two characters: one byte more. -/
theorem decodeFinish_two {len : Nat} {y2 y3 : UInt8} (h0 : s0 < 64) (h1 : s1 < 64) :
    decodeFinish len T.decodabet ⟨W ++ List.replicate (m + 1) 0,W.length,[T.sym s0, T.sym s1, y2, y3],2⟩ =
      pure (W ++ [UInt8.ofNat (Radix64.ofSextets s0 s1 0 0 >>> 16)]) := by
  have hst : store [T.sym s0, T.sym s1, y2, y3] 2 equalsSign = pure [T.sym s0, T.sym s1, equalsSign, y3] := rfl
  simp only [decodeFinish,show (2 : Nat) ≠ 0 from by decide,show ¬ (2 : Nat) = 1 from by decide,ne_eq,
    not_false_eq_true,if_true,if_false,hst,pure_bind,decode4to3_one T h0 h1 y3 rfl]
  simp [List.take_append,List.take_of_length_le (Nat.le_add_right W.length 1)]

/-- A tail of three characters: two bytes more. -/
theorem decodeFinish_three {len : Nat} {y3 : UInt8} (h0 : s0 < 64) (h1 : s1 < 64) (h2 : s2 < 64) :
    decodeFinish len T.decodabet ⟨W ++ List.replicate (m + 2) 0,W.length,[T.sym s0, T.sym s1, T.sym s2, y3],3⟩ =
      pure (W ++ [UInt8.ofNat (Radix64.ofSextets s0 s1 s2 0 >>> 16), UInt8.ofNat (Radix64.ofSextets s0 s1 s2 0 >>> 8)]) := by
  have hst : store [T.sym s0, T.sym s1, T.sym s2, y3] 3 equalsSign =
      pure [T.sym s0, T.sym s1, T.sym s2, equalsSign] := rfl
  simp only [decodeFinish,show (3 : Nat) ≠ 0 from by decide,show ¬ (3 : Nat) = 1 from by decide,ne_eq,
    not_false_eq_true,if_true,if_false,hst,pure_bind,decode4to3_two T h0 h1 h2 rfl]
  simp [List.take_append,List.take_of_length_le (Nat.le_add_right W.length 2)]

end Decoding

end V2rayZt.Ang.Base64
