import V2rayZt.Ang.Base64

/-! The decoder throws nothing but its own exception. Whatever the input,
every index into the input, the tables, `b4` and the output buffer stays in
range, and what it returns is at most `len * 3 / 4 + 2` bytes. -/
namespace V2rayZt.Ang.Base64
open JavaArray

/-- A `Base64DecoderException`, the one exception the callers catch. -/
def IsDecoderException (e : Thrown) : Prop := ∃ message, e = .base64DecoderException message

theorem isDecoderException_decoderException (message : String) : IsDecoderException (decoderException message) :=
  ⟨message,rfl⟩

/-- The character a read keeps: its low seven bits. -/
theorem crop_lt (x : UInt8) : (x &&& 0x7f).toNat < 128 := by
  rw [UInt8.toNat_and]
  exact Nat.and_lt_two_pow _ (show (0x7f : UInt8).toNat < 2^7 by decide)

/-- What the decoding loop keeps from `i` on: `b4` holds characters below 128
and has room for the next one, and every four characters read have filled at
most three bytes of the `2 + len * 3 / 4` the output buffer has. -/
structure DecodeInv (len i : Nat) (st : DecodeState) : Prop where
  length_b4 : st.b4.length = 4
  b4_lt : ∀ x ∈ st.b4, x.toNat < 128
  b4Posn_lt : st.b4Posn < 4
  length_outBuff : st.outBuff.length = 2 + len * 3 / 4
  posn_le : 4 * st.outBuffPosn + 3 * st.b4Posn ≤ 3 * i

theorem DecodeInv.init (len : Nat) :
    DecodeInv len 0 ⟨List.replicate (2 + len * 3 / 4) 0,0,List.replicate 4 0,0⟩ where
  length_b4 := List.length_replicate
  b4_lt x hx := by rw [List.eq_of_mem_replicate hx]; decide
  b4Posn_lt := by simp
  length_outBuff := List.length_replicate
  posn_le := by simp

theorem DecodeInv.mono {len i j : Nat} {st : DecodeState} (h : DecodeInv len i st) (hij : i ≤ j) :
    DecodeInv len j st :=
  { h with posn_le := by have := h.posn_le; omega }

theorem set_lt {b : List UInt8} {k : Nat} {x : UInt8} (hb : ∀ y ∈ b, y.toNat < 128) (hx : x.toNat < 128) :
    ∀ y ∈ b.set k x, y.toNat < 128 := by
  intro y hy
  rcases List.mem_or_eq_of_mem_set hy with h | rfl
  · exact hb y h
  · exact hx

section Tables
variable {decodabet : List Int8} (hD : decodabet.length = 128)
include hD

/-- The table read of a character below 128. -/
theorem loadAt_of_lt {b : UInt8} (hb : b.toNat < 128) : loadAt decodabet b = pure (decodabet.getD b.toNat 0) := by
  rw [loadAt,byteValue_of_lt hb,if_pos (Int.natCast_nonneg _),Int.toNat_natCast,load_getD (by omega) 0]

/-- `decode4to3` on four characters below 128, with room for three bytes
from `p`: it throws nothing, writes at most three bytes and keeps the
length. -/
theorem decode4to3_ensures {E : Thrown → Prop} {b4 dest : List UInt8} {p : Nat} (hb4 : b4.length = 4)
    (hlt : ∀ x ∈ b4, x.toNat < 128) (hp : p + 2 < dest.length) :
    Ensures (fun r : Nat × List UInt8 => r.1 ≤ 3 ∧ r.2.length = dest.length) E (decode4to3 b4 0 dest p decodabet) := by
  match b4, hb4 with
  | [x0,x1,x2,x3], _ =>
    obtain ⟨l0,l1,l2,l3⟩ := load_b4 x0 x1 x2 x3
    have hat : ∀ x ∈ [x0,x1,x2,x3], loadAt decodabet x = pure (decodabet.getD x.toNat 0) :=
      fun x hx => loadAt_of_lt hD (hlt x hx)
    have hp0 : p < dest.length := by omega
    have hp1 : p + 1 < dest.length := by omega
    simp only [decode4to3,l0,l1,l2,l3,pure_bind,hat x0 (by simp),hat x1 (by simp),hat x2 (by simp),
      hat x3 (by simp),store,
      JavaArray.store_of_lt hp0,JavaArray.store_of_lt (show p + 1 < (dest.set p _).length by simpa using hp1),
      JavaArray.store_of_lt (show p + 2 < ((dest.set p _).set (p + 1) _).length by simpa using hp)]
    split_ifs
    · exact ensures_pure (by simp)
    · exact ensures_pure (by simp)
    · exact ensures_pure (by simp)

section Loop
variable {source : List UInt8} {off len rest i : Nat} {st : DecodeState} {Q : DecodeState → Prop}

/-- One turn of the loop at `i < len`: it throws the decoder's exception,
breaks with the locals as they are, or goes on at `i + 1` with the invariant
kept. -/
theorem decodeLoop_succ_ensures (hlen : off + len ≤ source.length) (hi : i < len) (hinv : DecodeInv len i st)
    (hbreak : Q st) (hnext : ∀ st', DecodeInv len (i + 1) st' →
      Ensures Q IsDecoderException (decodeLoop source off len decodabet rest (i + 1) st')) :
    Ensures Q IsDecoderException (decodeLoop source off len decodabet (rest + 1) i st) := by
  have hsrc : i + off < source.length := by omega
  have hlast : len - 1 + off < source.length := by omega
  have hcrop := crop_lt source[i + off]
  have hb4 : st.b4Posn < st.b4.length := by rw [hinv.length_b4]; exact hinv.b4Posn_lt
  have hthrow (message : String) : Ensures Q IsDecoderException (throw (decoderException message)) :=
    ensures_throw (isDecoderException_decoderException message)
  simp only [decodeLoop,load_of_lt hsrc,load_of_lt hlast,pure_bind,loadAt_of_lt hD hcrop,store,
    JavaArray.store_of_lt hb4]
  split_ifs with hw he heq h01 hfalse htrail hfour
  -- the `=` checks
  · exact hthrow _
  · exact hthrow _
  · exact hthrow _
  · exact ensures_pure hbreak
  -- the character completes a group, which `decode4to3` writes out
  · have hroom : st.outBuffPosn + 2 < st.outBuff.length := by
      have := hinv.posn_le
      rw [hinv.length_outBuff]
      omega
    refine ensures_bind (decode4to3_ensures hD (by simp [hinv.length_b4]) (set_lt hinv.b4_lt hcrop) hroom) ?_
    rintro ⟨n,outBuff⟩ ⟨hn,houtBuff⟩
    refine hnext _ ⟨by simp [hinv.length_b4],set_lt hinv.b4_lt hcrop,Nat.zero_lt_succ 3,?_,?_⟩
    · exact houtBuff.trans hinv.length_outBuff
    · have := hinv.posn_le
      dsimp only at hn ⊢
      omega
  · refine hnext _ ⟨by simp [hinv.length_b4],set_lt hinv.b4_lt hcrop,?_,hinv.length_outBuff,?_⟩
    · have := hinv.b4Posn_lt
      dsimp only
      omega
    · have := hinv.posn_le
      dsimp only
      omega
  -- whitespace
  · exact hnext st (hinv.mono (by omega))
  -- a character outside the alphabet
  · exact hthrow _

/-- The whole loop from `i`: it throws the decoder's exception or ends with
the invariant at `len`. Induction on the characters left. -/
theorem decodeLoop_ensures (hlen : off + len ≤ source.length) :
    ∀ rest i st, i + rest = len → DecodeInv len i st →
      Ensures (DecodeInv len len) IsDecoderException (decodeLoop source off len decodabet rest i st)
  | 0, _, _, hi, hinv => ensures_pure (hinv.mono (by omega))
  | rest + 1, i, st, hi, hinv =>
    decodeLoop_succ_ensures hD hlen (by omega) hinv (hinv.mono (by omega)) fun st' hinv' =>
      decodeLoop_ensures hlen rest (i + 1) st' (by omega) hinv'

end Loop

/-- The end of `decode`: a single trailing character throws, two or three are
padded and decoded into the room the buffer has left, and the copy takes no
more than the buffer holds. -/
theorem decodeFinish_ensures {len : Nat} {st : DecodeState} (hinv : DecodeInv len len st) :
    Ensures (fun out : List UInt8 => out.length ≤ len * 3 / 4 + 2) IsDecoderException
      (decodeFinish len decodabet st) := by
  have hposn := hinv.posn_le
  have hout := hinv.length_outBuff
  unfold decodeFinish
  by_cases h0 : st.b4Posn = 0
  · -- no tail: the bytes of the whole groups
    have hle : st.outBuffPosn ≤ st.outBuff.length := by omega
    simp only [h0,ne_eq,not_true_eq_false,if_false,pure_bind,copyOf_of_le hle]
    exact ensures_pure (by rw [List.length_take]; omega)
  · by_cases h1 : st.b4Posn = 1
    · simp only [h1,ne_eq,Nat.one_ne_zero,not_false_eq_true,if_true,throw_bind]
      exact ensures_throw (isDecoderException_decoderException _)
    · -- a tail of two or three characters, padded with `=` in `b4`
      have hb4 : st.b4Posn < st.b4.length := by rw [hinv.length_b4]; exact hinv.b4Posn_lt
      have hroom : st.outBuffPosn + 2 < st.outBuff.length := by omega
      simp only [ne_eq,h0,h1,not_false_eq_true,if_true,if_false,store,store_of_lt hb4,pure_bind]
      refine ensures_bind (decode4to3_ensures hD (by simp [hinv.length_b4]) (set_lt hinv.b4_lt (by decide)) hroom) ?_
      rintro ⟨n,outBuff⟩ ⟨hn,houtBuff⟩
      dsimp only at hn houtBuff ⊢
      have hle : st.outBuffPosn + n ≤ outBuff.length := by
        have := hinv.b4Posn_lt
        omega
      rw [copyOf_of_le hle]
      exact ensures_pure (by rw [List.length_take]; omega)

/-- `decode(source, off, len, decodabet)` with any table of 128 entries. -/
theorem decodeSegment_ensures {source : List UInt8} {off len : Nat} (hlen : off + len ≤ source.length) :
    Ensures (fun out : List UInt8 => out.length ≤ len * 3 / 4 + 2) IsDecoderException
      (decodeSegment source off len decodabet) :=
  ensures_bind (decodeLoop_ensures hD hlen len 0 _ (Nat.zero_add len) (DecodeInv.init len)) fun _ hinv =>
    decodeFinish_ensures hD hinv

end Tables

theorem decode_throws_only_decoder_exception {source : List UInt8} {off len : Nat} {decodabet : List Int8}
    (hd : decodabet = Base64.decodabet ∨ decodabet = websafeDecodabet) (hlen : off + len ≤ source.length) :
    (∃ out, decodeSegment source off len decodabet = pure out ∧ out.length ≤ len * 3 / 4 + 2) ∨
      ∃ message, decodeSegment source off len decodabet = throw (.base64DecoderException message) := by
  have hD : decodabet.length = 128 := by rcases hd with rfl | rfl <;> rfl
  rcases (decodeSegment_ensures hD hlen).eq_pure_or_throw with ⟨out,hout,hle⟩ | ⟨e,he,message,rfl⟩
  · exact .inl ⟨out,hout,hle⟩
  · exact .inr ⟨message,he⟩

theorem decode_throws_only_decoder_exception_padded :
    (∃ out, decodeSegment [81, 81, 61, 61] 0 4 decodabet = pure out ∧ out.length ≤ 4 * 3 / 4 + 2) ∨
      ∃ message, decodeSegment [81, 81, 61, 61] 0 4 decodabet = throw (.base64DecoderException message) :=
  decode_throws_only_decoder_exception (.inl rfl) (by decide)

end V2rayZt.Ang.Base64
