import V2rayZt.Ang.Base64

/-! What the app's Base64 class computes. -/
namespace V2rayZt.Ang.Base64

section Encoder
variable {source alphabet tail : List UInt8} {off L : Nat}

/-- The encoding loop with a line length that is not a multiple of four: no
turn ends a line, and every group goes after the one before. -/
theorem encodeLoop_run (hA : alphabet.length = 64) (hL : ¬ 4 ∣ L) :
    ∀ (xs : List UInt8) (d : Nat) (P : List UInt8) (m lineLength : Nat),
      source.drop (d + off) = xs ++ tail → 4 ∣ lineLength → 4 * (xs.length / 3) ≤ m →
      encodeLoop source off alphabet L xs.length d ⟨P ++ List.replicate m 0, P.length, lineLength⟩ =
        pure (d + 3 * (xs.length / 3),
          ⟨P ++ encodeSpec alphabet (xs.take (3 * (xs.length / 3))) ++ List.replicate (m - 4 * (xs.length / 3)) 0,
            P.length + 4 * (xs.length / 3), lineLength + 4 * (xs.length / 3)⟩)
  | a :: b :: c :: xs, d, P, m, lineLength, hsrc, hline, hm => by
    have hk : (xs.length + 3) / 3 = xs.length / 3 + 1 := by omega
    simp only [List.length_cons,show xs.length + 1 + 1 + 1 = xs.length + 3 by omega,hk] at hm ⊢
    obtain ⟨m',rfl⟩ : ∃ m', m = m' + 4 := ⟨m - 4,by omega⟩
    have hline' : lineLength + 4 ≠ L := fun h => hL (h ▸ Nat.dvd_add hline (Nat.dvd_refl 4))
    have hsrc' : source.drop (d + 3 + off) = xs ++ tail := by
      rw [show d + 3 + off = (d + off) + 3 by omega,← List.drop_drop,hsrc]
      rfl
    have hP : P.length + 4 = (P ++ groupChars alphabet (Radix64.group a.toNat b.toNat c.toNat)).length := by simp
    rw [encodeLoop_group hA (by simpa using hsrc) hline',hP,
      encodeLoop_run hA hL xs (d + 3) _ m' (lineLength + 4) hsrc' (Nat.dvd_add hline (Nat.dvd_refl 4)) (by omega)]
    have htake : (a :: b :: c :: xs).take (3 * (xs.length / 3 + 1)) = a :: b :: c :: xs.take (3 * (xs.length / 3)) := by
      rw [show 3 * (xs.length / 3 + 1) = 3 * (xs.length / 3) + 1 + 1 + 1 by omega]
      rfl
    have hd : d + 3 + 3 * (xs.length / 3) = d + 3 * (xs.length / 3 + 1) := by omega
    have he : P.length + 4 + 4 * (xs.length / 3) = P.length + 4 * (xs.length / 3 + 1) := by omega
    have hl : lineLength + 4 + 4 * (xs.length / 3) = lineLength + 4 * (xs.length / 3 + 1) := by omega
    have hz : m' - 4 * (xs.length / 3) = m' + 4 - 4 * (xs.length / 3 + 1) := by omega
    rw [htake,encodeSpec_cons3]
    simp only [List.length_append,length_groupChars,List.append_assoc,hd,he,hl,hz]
  | [], d, P, m, lineLength, _, _, _ => by simp [encodeLoop_of_lt]
  | [_], d, P, m, lineLength, _, _, _ => by simp [encodeLoop_of_lt]
  | [_, _], d, P, m, lineLength, _, _, _ => by simp [encodeLoop_of_lt]

theorem encodeSpec_append {xs : List UInt8} (hx : 3 ∣ xs.length) (ys : List UInt8) :
    encodeSpec alphabet (xs ++ ys) = encodeSpec alphabet xs ++ encodeSpec alphabet ys := by
  unfold encodeSpec
  rw [List.map_append,Radix64.encode_append _ _ (by simpa using hx)]

/-- With a line length that is not a multiple of four no turn writes a
newline: the buffer holds the Base64 text of the segment followed by the
`len43 / maxLineLength` zeros it was sized for, and `e` ends at `len43`. -/
theorem encodeLines_of_not_dvd {len : Nat} (hA : alphabet.length = 64) (hL : ¬ 4 ∣ L)
    (hlen : off + len ≤ source.length) :
    encodeLines source off len alphabet L =
      pure (encodeSpec alphabet ((source.drop off).take len) ++ List.replicate ((len + 2) / 3 * 4 / L) 0,
        (len + 2) / 3 * 4) := by
  have hL0 : L ≠ 0 := by
    rintro rfl
    exact hL (Nat.dvd_zero 4)
  set seg := (source.drop off).take len with hseg_def
  have hseg : seg.length = len := by simp [seg]; omega
  have hsrc : source.drop (0 + off) = seg ++ (source.drop off).drop len := by
    rw [Nat.zero_add]
    exact (List.take_append_drop len _).symm
  have hM : 4 * (seg.length / 3) ≤ (len + 2) / 3 * 4 + (len + 2) / 3 * 4 / L := by
    have : 4 * (seg.length / 3) ≤ (len + 2) / 3 * 4 := by omega
    exact Nat.le_trans this (Nat.le_add_right _ _)
  have hrun := encodeLoop_run hA hL seg 0 [] _ 0 hsrc (Nat.dvd_zero 4) hM
  simp only [List.nil_append,List.length_nil,hseg,Nat.zero_add] at hrun
  simp only [encodeLines,if_neg hL0]
  rw [hrun,pure_bind]
  dsimp only
  -- the loop has read the whole groups; what is left is the tail of `len % 3` bytes
  have hfull : 3 ∣ (seg.take (3 * (len / 3))).length := by
    rw [List.length_take,hseg]
    omega
  have hencode : encodeSpec alphabet seg =
      encodeSpec alphabet (seg.take (3 * (len / 3))) ++ encodeSpec alphabet (seg.drop (3 * (len / 3))) := by
    conv_lhs => rw [← List.take_append_drop (3 * (len / 3)) seg]
    exact encodeSpec_append hfull _
  have hP : (encodeSpec alphabet (seg.take (3 * (len / 3)))).length = 4 * (len / 3) := by
    rw [length_encodeSpec,List.length_take,hseg]
    omega
  have hrest : (seg.drop (3 * (len / 3))).length = len % 3 := by
    rw [List.length_drop,hseg]
    omega
  have hsrc' : source.drop (3 * (len / 3) + off) = seg.drop (3 * (len / 3)) ++ (source.drop off).drop len := by
    have hdrop : source.drop (3 * (len / 3) + off) = (source.drop (0 + off)).drop (3 * (len / 3)) := by
      rw [List.drop_drop]
      congr 1
      omega
    rw [hdrop,hsrc,List.drop_append_of_le_length (by omega)]
  have hline : 4 * (len / 3) + 4 ≠ L := fun h => hL ⟨len / 3 + 1,by omega⟩
  rcases hr : seg.drop (3 * (len / 3)) with _ | ⟨a,_ | ⟨b,_ | ⟨c,t⟩⟩⟩
  · rw [hr,List.length_nil] at hrest
    rw [if_neg (by omega),hencode,hr,encodeSpec_nil,List.append_nil,
      show (len + 2) / 3 * 4 + (len + 2) / 3 * 4 / L - 4 * (len / 3) = (len + 2) / 3 * 4 / L by omega,
      show 4 * (len / 3) = (len + 2) / 3 * 4 by omega]
  · rw [hr,List.length_singleton] at hrest
    rw [if_pos (by omega),show len - 3 * (len / 3) = 1 by omega,
      show (len + 2) / 3 * 4 + (len + 2) / 3 * 4 / L - 4 * (len / 3) = (len + 2) / 3 * 4 / L + 4 by omega,
      encode3to4_one hA (by rw [hsrc',hr]; rfl) hP.symm,pure_bind,if_neg hline,hencode,hr,
      show 4 * (len / 3) + 4 = (len + 2) / 3 * 4 by omega]
    simp only [List.append_assoc]
    rfl
  · rw [hr] at hrest
    simp only [List.length_cons,List.length_nil] at hrest
    rw [if_pos (by omega),show len - 3 * (len / 3) = 2 by omega,
      show (len + 2) / 3 * 4 + (len + 2) / 3 * 4 / L - 4 * (len / 3) = (len + 2) / 3 * 4 / L + 4 by omega,
      encode3to4_two hA (by rw [hsrc',hr]; rfl) hP.symm,pure_bind,if_neg hline,hencode,hr,
      show 4 * (len / 3) + 4 = (len + 2) / 3 * 4 by omega]
    simp only [List.append_assoc]
    rfl
  · rw [hr] at hrest
    simp only [List.length_cons] at hrest
    omega

/-- A line length that is not a multiple of four and not longer than the text
never ends a line: the loop writes the text unwrapped, `e` stops after it,
and the `len43 / maxLineLength` bytes the buffer has for newlines stay zero,
so the final `assert (e == outBuff.length)` fails. -/
theorem encodeLines_unfilled {len : Nat} (hA : alphabet.length = 64) (hL : ¬ 4 ∣ L) (hLe : L ≤ (len + 2) / 3 * 4)
    (hlen : off + len ≤ source.length) :
    ∃ outBuff e, encodeLines source off len alphabet L = pure (outBuff,e) ∧ e < outBuff.length ∧
      outBuff.take e = encodeSpec alphabet ((source.drop off).take len) ∧
      outBuff.drop e = List.replicate ((len + 2) / 3 * 4 / L) 0 := by
  have hL0 : 0 < L := Nat.pos_of_ne_zero fun h => hL (h ▸ Nat.dvd_zero 4)
  have htext : (encodeSpec alphabet ((source.drop off).take len)).length = (len + 2) / 3 * 4 := by
    rw [length_encodeSpec,List.length_take,List.length_drop]
    omega
  have hzeros : 0 < (len + 2) / 3 * 4 / L := Nat.div_pos hLe hL0
  refine ⟨_,_,encodeLines_of_not_dvd hA hL hlen,?_,?_,?_⟩
  · rw [List.length_append,List.length_replicate,htext]
    omega
  · exact List.take_left' htext
  · exact List.drop_left' htext

end Encoder

theorem encodeLines_unfilled_one :
    ∃ outBuff e, encodeLines [1, 2, 3] 0 3 alphabet 1 = pure (outBuff,e) ∧ e < outBuff.length ∧
      outBuff.take e = encodeSpec alphabet (([1, 2, 3].drop 0).take 3) ∧
      outBuff.drop e = List.replicate ((3 + 2) / 3 * 4 / 1) 0 :=
  encodeLines_unfilled rfl (by decide) (by decide) (by decide)

/-- The buffer for three bytes and lines of one character: `AQID` and four
zero bytes, which `decode` rejects. -/
theorem encodeLines_one_decode :
    encodeLines [1, 2, 3] 0 3 alphabet 1 = pure ([65, 81, 73, 68, 0, 0, 0, 0],4) ∧
      decode [65, 81, 73, 68, 0, 0, 0, 0] =
        throw (.base64DecoderException "Bad Base64 input character at 4: 0(decimal)") := by
  decide

theorem encodeSpecNoPad_append {alphabet xs : List UInt8} (hx : 3 ∣ xs.length) (ys : List UInt8) :
    encodeSpecNoPad alphabet (xs ++ ys) = encodeSpec alphabet xs ++ encodeSpecNoPad alphabet ys := by
  unfold encodeSpecNoPad encodeSpec
  rw [List.map_append,Radix64.encodeNoPad_append _ equalsSign (by simpa using hx)]

section Decoder
variable (T : Tables) {source tail W : List UInt8} {off len rest i m : Nat}

theorem ofNat_group (a b c : UInt8) :
    UInt8.ofNat (Radix64.group a.toNat b.toNat c.toNat >>> 16) = a ∧
      UInt8.ofNat (Radix64.group a.toNat b.toNat c.toNat >>> 8) = b ∧
      UInt8.ofNat (Radix64.group a.toNat b.toNat c.toNat) = c := by
  have ha := a.toNat_lt
  have hb := b.toNat_lt
  have hc := c.toNat_lt
  refine ⟨?_,?_,?_⟩ <;> apply UInt8.toNat_inj.1 <;>
    simp only [UInt8.toNat_ofNat',Nat.shiftRight_eq_div_pow,Radix64.group] <;> omega

theorem drop_succ_of_cons {l t : List UInt8} {x : UInt8} {k : Nat} (h : l.drop (k + off) = x :: t) :
    l.drop (k + 1 + off) = t := by
  rw [show k + 1 + off = (k + off) + 1 by omega,← List.drop_drop,h]
  rfl

/-- The four characters of a group decode to its three bytes. -/
theorem decodeLoop_group {a b c : UInt8} {b4 : List UInt8}
    (hsrc : source.drop (i + off) = groupChars T.alphabet (Radix64.group a.toNat b.toNat c.toNat) ++ tail)
    (hb4 : b4.length = 4) :
    decodeLoop source off len T.decodabet (rest + 4) i ⟨W ++ List.replicate (m + 3) 0,W.length,b4,0⟩ =
      decodeLoop source off len T.decodabet rest (i + 4)
        ⟨W ++ [a,b,c] ++ List.replicate m 0,W.length + 3,
          groupChars T.alphabet (Radix64.group a.toNat b.toNat c.toNat),0⟩ := by
  set g := Radix64.group a.toNat b.toNat c.toNat
  have hs : ∀ s ∈ Radix64.sextets g, s < 64 := fun s hs => Radix64.mem_sextets_lt hs
  simp only [Radix64.sextets,List.mem_cons,List.not_mem_nil,or_false,forall_eq_or_imp,forall_eq] at hs
  obtain ⟨h0,h1,h2,h3⟩ := hs
  have hc0 : source.drop (i + off) = T.sym (g / 2^18 % 64) :: T.sym (g / 2^12 % 64) ::
      T.sym (g / 2^6 % 64) :: T.sym (g % 64) :: tail := hsrc
  have hc1 := drop_succ_of_cons hc0
  have hc2 := drop_succ_of_cons hc1
  have hc3 := drop_succ_of_cons hc2
  have hgroup := Radix64.ofSextets_sextets (Radix64.group_lt a.toNat_lt b.toNat_lt c.toNat_lt)
  obtain ⟨ha,hb,hc⟩ := ofNat_group a b c
  rw [show rest + 4 = rest + 3 + 1 from rfl,decodeLoop_sym T h0 hc0 (by simp [hb4]) (by simp)]
  rw [show rest + 3 = rest + 2 + 1 from rfl,decodeLoop_sym T h1 hc1 (by simp [hb4]) (by simp)]
  rw [show rest + 2 = rest + 1 + 1 from rfl,decodeLoop_sym T h2 hc2 (by simp [hb4]) (by simp)]
  rw [decodeLoop_sym_group T h3 hc3 (by simp [hb4]) rfl]
  dsimp only
  rw [set_four hb4,decode4to3_three T h0 h1 h2 h3 rfl,pure_bind]
  dsimp only
  rw [hgroup,ha,hb,hc]
  rfl

/-- The whole groups of a text decode one after the other; `b4` is left with
the characters of the last of them. -/
theorem decodeLoop_groups :
    ∀ (xs : List UInt8) (i : Nat) (W b4 : List UInt8) (m : Nat), 3 ∣ xs.length → b4.length = 4 →
      source.drop (i + off) = encodeSpec T.alphabet xs ++ tail → xs.length ≤ m →
      ∃ b4' : List UInt8, b4'.length = 4 ∧
        decodeLoop source off len T.decodabet (4 * (xs.length / 3) + rest) i ⟨W ++ List.replicate m 0,W.length,b4,0⟩ =
          decodeLoop source off len T.decodabet rest (i + 4 * (xs.length / 3))
            ⟨W ++ xs ++ List.replicate (m - xs.length) 0,W.length + xs.length,b4',0⟩
  | a :: b :: c :: xs, i, W, b4, m, hx, hb4, hsrc, hm => by
    simp only [List.length_cons] at hx hm ⊢
    obtain ⟨m',rfl⟩ : ∃ m', m = m' + 3 := ⟨m - 3,by omega⟩
    rw [encodeSpec_cons3,List.append_assoc] at hsrc
    have hsrc' : source.drop (i + 4 + off) = encodeSpec T.alphabet xs ++ tail := by
      rw [show i + 4 + off = (i + off) + 4 by omega,← List.drop_drop,hsrc]
      exact List.drop_left' (length_groupChars _ _)
    have hk : (xs.length + 1 + 1 + 1) / 3 = xs.length / 3 + 1 := by omega
    rw [hk,show 4 * (xs.length / 3 + 1) + rest = 4 * (xs.length / 3) + rest + 4 by omega,
      decodeLoop_group T hsrc hb4]
    obtain ⟨b4',hb4',hrun⟩ := decodeLoop_groups xs (i + 4) (W ++ [a,b,c]) _ m' (by omega) (length_groupChars _ _)
      hsrc' (by omega)
    refine ⟨b4',hb4',?_⟩
    have hW : W.length + 3 = (W ++ [a,b,c]).length := by simp
    have hi : i + 4 + 4 * (xs.length / 3) = i + 4 * (xs.length / 3 + 1) := by omega
    have hz : m' - xs.length = m' + 3 - (xs.length + 1 + 1 + 1) := by omega
    have hposn : (W ++ [a,b,c]).length + xs.length = W.length + (xs.length + 1 + 1 + 1) := by simp; omega
    rw [hW,hrun,hi,hz,hposn]
    simp only [List.append_assoc,List.cons_append,List.nil_append]
  | [], i, W, b4, m, _, hb4, _, _ => ⟨b4,hb4,by simp⟩
  | [_], _, _, _, _, hx, _, _, _ => absurd hx (by simp)
  | [_, _], _, _, _, _, hx, _, _, _ => absurd hx (by simp)

/-- Two characters of a last group, unpadded, or followed by `=` in an input
that ends with `=` or a newline: they wait in `b4`. -/
theorem decodeLoop_tail2 {s0 s1 : Nat} {O pads b4 : List UInt8} {p : Nat} (h0 : s0 < 64) (h1 : s1 < 64)
    (hsrc : source.drop (i + off) = [T.sym s0, T.sym s1] ++ pads)
    (hpads : pads = [] ∨ pads.head? = some equalsSign ∧
      (source[len - 1 + off]? = some equalsSign ∨ source[len - 1 + off]? = some newLine))
    (hb4 : b4.length = 4) :
    decodeLoop source off len T.decodabet (2 + pads.length) i ⟨O,p,b4,0⟩ =
      pure ⟨O,p,(b4.set 0 (T.sym s0)).set 1 (T.sym s1),2⟩ := by
  have hc1 := drop_succ_of_cons hsrc
  have hc2 := drop_succ_of_cons hc1
  rw [show 2 + pads.length = pads.length + 1 + 1 by omega,decodeLoop_sym T h0 hsrc (by simp [hb4]) (by simp),
    decodeLoop_sym T h1 hc1 (by simp [hb4]) (by simp)]
  rcases hpads with rfl | ⟨hhead,hlast⟩
  · rfl
  · obtain ⟨t,rfl⟩ : ∃ t, pads = equalsSign :: t := ⟨pads.tail,(List.cons_head?_tail hhead).symm⟩
    exact decodeLoop_equals T hc2 hlast (Or.inl rfl)

/-- Three characters of a last group, unpadded, or followed by an `=` that
ends the input or stands before its last byte, a newline. -/
theorem decodeLoop_tail3 {s0 s1 s2 : Nat} {O pads b4 : List UInt8} {p : Nat} (h0 : s0 < 64) (h1 : s1 < 64)
    (h2 : s2 < 64) (hsrc : source.drop (i + off) = [T.sym s0, T.sym s1, T.sym s2] ++ pads)
    (hpads : pads = [] ∨ pads.head? = some equalsSign ∧
      (source[len - 1 + off]? = some equalsSign ∨ source[len - 1 + off]? = some newLine) ∧ len ≤ i + 5)
    (hb4 : b4.length = 4) :
    decodeLoop source off len T.decodabet (3 + pads.length) i ⟨O,p,b4,0⟩ =
      pure ⟨O,p,((b4.set 0 (T.sym s0)).set 1 (T.sym s1)).set 2 (T.sym s2),3⟩ := by
  have hc1 := drop_succ_of_cons hsrc
  have hc2 := drop_succ_of_cons hc1
  have hc3 := drop_succ_of_cons hc2
  rw [show 3 + pads.length = pads.length + 1 + 1 + 1 by omega,
    decodeLoop_sym T h0 hsrc (by simp [hb4]) (by simp),decodeLoop_sym T h1 hc1 (by simp [hb4]) (by simp),
    decodeLoop_sym T h2 hc2 (by simp [hb4]) (by simp)]
  rcases hpads with rfl | ⟨hhead,hlast,hlen⟩
  · rfl
  · obtain ⟨t,rfl⟩ : ∃ t, pads = equalsSign :: t := ⟨pads.tail,(List.cons_head?_tail hhead).symm⟩
    exact decodeLoop_equals T hc3 hlast (Or.inr ⟨rfl,by omega⟩)

theorem ofNat_tail1 (a : UInt8) :
    UInt8.ofNat (Radix64.ofSextets (Radix64.group a.toNat 0 0 / 2^18 % 64)
      (Radix64.group a.toNat 0 0 / 2^12 % 64) 0 0 >>> 16) = a := by
  have ha := a.toNat_lt
  apply UInt8.toNat_inj.1
  simp only [UInt8.toNat_ofNat',Nat.shiftRight_eq_div_pow,Radix64.ofSextets,Radix64.group]
  omega

theorem ofNat_tail2 (a b : UInt8) :
    UInt8.ofNat (Radix64.ofSextets (Radix64.group a.toNat b.toNat 0 / 2^18 % 64)
      (Radix64.group a.toNat b.toNat 0 / 2^12 % 64) (Radix64.group a.toNat b.toNat 0 / 2^6 % 64) 0 >>> 16) = a ∧
    UInt8.ofNat (Radix64.ofSextets (Radix64.group a.toNat b.toNat 0 / 2^18 % 64)
      (Radix64.group a.toNat b.toNat 0 / 2^12 % 64) (Radix64.group a.toNat b.toNat 0 / 2^6 % 64) 0 >>> 8) = b := by
  have ha := a.toNat_lt
  have hb := b.toNat_lt
  constructor <;> apply UInt8.toNat_inj.1 <;>
    simp only [UInt8.toNat_ofNat',Nat.shiftRight_eq_div_pow,Radix64.ofSextets,Radix64.group] <;> omega

/-- The characters of a last group of one or two bytes, then nothing, or its
`=` in an input that ends with `=` or a newline: the loop and the tail that
`decode` finishes with give back its bytes. -/
theorem decodeLoop_short {i m : Nat} {r pads b4 : List UInt8} (h0 : 0 < r.length) (h3 : r.length < 3)
    (hsrc : source.drop (i + off) = encodeSpecNoPad T.alphabet r ++ pads)
    (hpads : pads = [] ∨ pads.head? = some equalsSign ∧
      (source[len - 1 + off]? = some equalsSign ∨ source[len - 1 + off]? = some newLine) ∧ len ≤ i + 5)
    (hb4 : b4.length = 4) (hm : r.length ≤ m) :
    (decodeLoop source off len T.decodabet ((encodeSpecNoPad T.alphabet r).length + pads.length) i
        ⟨W ++ List.replicate m 0,W.length,b4,0⟩ >>= decodeFinish len T.decodabet) = pure (W ++ r) := by
  match r, h0, h3 with
  | [a], _, _ =>
    set g := Radix64.group a.toNat 0 0
    have h0 : g / 2^18 % 64 < 64 := Nat.mod_lt _ (by decide)
    have h1 : g / 2^12 % 64 < 64 := Nat.mod_lt _ (by decide)
    have htext : encodeSpecNoPad T.alphabet [a] = [T.sym (g / 2^18 % 64), T.sym (g / 2^12 % 64)] := by
      simp [g,encodeSpecNoPad,Radix64.encodeNoPad,Radix64.sextets,Tables.sym]
    obtain ⟨y2,y3,hset⟩ := set_two hb4 (T.sym (g / 2^18 % 64)) (T.sym (g / 2^12 % 64))
    obtain ⟨m',rfl⟩ : ∃ m', m = m' + 1 := ⟨m - 1,by simp at hm; omega⟩
    rw [htext] at hsrc ⊢
    rw [show [T.sym (g / 2^18 % 64), T.sym (g / 2^12 % 64)].length = 2 from rfl,
      decodeLoop_tail2 T h0 h1 hsrc (hpads.imp_right fun h => ⟨h.1,h.2.1⟩) hb4,pure_bind,hset,
      decodeFinish_two T h0 h1,ofNat_tail1]
  | [a, b], _, _ =>
    set g := Radix64.group a.toNat b.toNat 0
    have h0 : g / 2^18 % 64 < 64 := Nat.mod_lt _ (by decide)
    have h1 : g / 2^12 % 64 < 64 := Nat.mod_lt _ (by decide)
    have h2 : g / 2^6 % 64 < 64 := Nat.mod_lt _ (by decide)
    have htext : encodeSpecNoPad T.alphabet [a, b] =
        [T.sym (g / 2^18 % 64), T.sym (g / 2^12 % 64), T.sym (g / 2^6 % 64)] := by
      simp [g,encodeSpecNoPad,Radix64.encodeNoPad,Radix64.sextets,Tables.sym]
    obtain ⟨y3,hset⟩ := set_three hb4 (T.sym (g / 2^18 % 64)) (T.sym (g / 2^12 % 64)) (T.sym (g / 2^6 % 64))
    obtain ⟨m',rfl⟩ : ∃ m', m = m' + 2 := ⟨m - 2,by simp at hm; omega⟩
    obtain ⟨ha,hb⟩ := ofNat_tail2 a b
    rw [htext] at hsrc ⊢
    rw [show [T.sym (g / 2^18 % 64), T.sym (g / 2^12 % 64), T.sym (g / 2^6 % 64)].length = 3 from rfl,
      decodeLoop_tail3 T h0 h1 h2 hsrc hpads hb4,pure_bind,hset,decodeFinish_three T h0 h1 h2,ha,hb]

/-- The text of `x`, with its padding or without, decodes to `x`. -/
theorem decodeSegment_encodeSpec (x : List UInt8) (doPadding : Bool) :
    decodeSegment (if doPadding then encodeSpec T.alphabet x else encodeSpecNoPad T.alphabet x) 0
      (if doPadding then encodeSpec T.alphabet x else encodeSpecNoPad T.alphabet x).length T.decodabet = pure x := by
  set text := if doPadding then encodeSpec T.alphabet x else encodeSpecNoPad T.alphabet x with htext_def
  set full := x.take (3 * (x.length / 3))
  set r := x.drop (3 * (x.length / 3))
  set pads : List UInt8 := if doPadding then List.replicate (Radix64.padCount r.length) equalsSign else []
  have hfull : full.length = 3 * (x.length / 3) := by simp [full]; omega
  have hr : r.length = x.length % 3 := by simp [r]; omega
  have hdvd : 3 ∣ full.length := ⟨x.length / 3,hfull⟩
  have hx : full ++ r = x := List.take_append_drop _ x
  -- the whole groups, then the characters of the last bytes and their padding
  have htext : text = encodeSpec T.alphabet full ++ (encodeSpecNoPad T.alphabet r ++ pads) := by
    cases doPadding
    · simp only [text,pads,Bool.false_eq_true,if_false,List.append_nil]
      conv_lhs => rw [← hx]
      exact encodeSpecNoPad_append hdvd _
    · simp only [text,pads,if_true]
      conv_lhs => rw [← hx]
      rw [encodeSpec_append hdvd,encodeSpec_eq_encodeSpecNoPad T.alphabet r]
  have hlen : text.length = 4 * (full.length / 3) + ((encodeSpecNoPad T.alphabet r).length + pads.length) := by
    rw [htext,List.length_append,List.length_append,length_encodeSpec]
    omega
  obtain ⟨b4,hb4,hrun⟩ := @decodeLoop_groups T text (encodeSpecNoPad T.alphabet r ++ pads) 0 text.length
    ((encodeSpecNoPad T.alphabet r).length + pads.length) full 0 [] (List.replicate 4 0) (2 + text.length * 3 / 4)
    hdvd (by simp) (by simpa using htext) (by omega)
  simp only [List.nil_append,List.length_nil,Nat.zero_add,← hlen] at hrun
  simp only [decodeSegment,hrun]
  rcases Nat.eq_zero_or_pos r.length with hr0 | hr0
  · -- no byte after the whole groups
    have hnil : r = [] := List.eq_nil_of_length_eq_zero hr0
    have hp : pads = [] := by cases doPadding <;> simp [pads,hnil,Radix64.padCount]
    rw [hnil,List.append_nil] at hx
    rw [hnil,hp,encodeSpecNoPad_nil,List.length_nil,
      show decodeLoop text 0 text.length T.decodabet 0 (4 * (full.length / 3))
        ⟨full ++ List.replicate (2 + text.length * 3 / 4 - full.length) 0,full.length,b4,0⟩ =
          pure ⟨full ++ List.replicate (2 + text.length * 3 / 4 - full.length) 0,full.length,b4,0⟩ from rfl,
      pure_bind,decodeFinish_zero,JavaArray.copyOf_of_le (by simp),List.take_left' rfl]
    exact congrArg pure hx
  · -- one or two bytes: two or three characters, then their `=` or nothing
    have hr3 : r.length < 3 := by omega
    have hdrop : text.drop (4 * (full.length / 3) + 0) = encodeSpecNoPad T.alphabet r ++ pads := by
      rw [htext,Nat.add_zero,List.drop_left' (by rw [length_encodeSpec]; omega)]
    have hpads : pads = [] ∨ pads.head? = some equalsSign ∧
        (text[text.length - 1 + 0]? = some equalsSign ∨ text[text.length - 1 + 0]? = some newLine) ∧
        text.length ≤ 4 * (full.length / 3) + 5 := by
      cases doPadding
      · exact Or.inl rfl
      · obtain ⟨p,hp⟩ : ∃ p, Radix64.padCount r.length = p + 1 := ⟨Radix64.padCount r.length - 1,by
          simp only [Radix64.padCount]; omega⟩
        have hnp : (encodeSpecNoPad T.alphabet r).length + (p + 1) = 4 := by
          rw [encodeSpecNoPad,Radix64.length_encodeNoPad,List.length_map,← hp,Radix64.padCount]
          omega
        have hpads : pads = List.replicate (p + 1) equalsSign := by simp only [pads,if_true,hp]
        rw [hpads] at htext hlen ⊢
        refine Or.inr ⟨rfl,Or.inl ?_,?_⟩
        · rw [Nat.add_zero,← List.getLast?_eq_getElem?,htext,List.getLast?_append,List.getLast?_append,
            List.getLast?_replicate]
          rfl
        · simp only [List.length_replicate] at hlen
          omega
    rw [decodeLoop_short T hr0 hr3 hdrop hpads hb4 (by omega),hx]

end Decoder

/-- `encode(source, off, len, alphabet, doPadding)` writes the Base64 text of
the segment, with its padding or without, as long as the text is shorter
than `Integer.MAX_VALUE`. -/
theorem encodeSegment_eq (T : Tables) {source : List UInt8} {off len : Nat} (hlen : off + len ≤ source.length)
    (hbound : (len + 2) / 3 * 4 < integerMaxValue) (doPadding : Bool) :
    encodeSegment source off len T.alphabet doPadding =
      pure (if doPadding then encodeSpec T.alphabet ((source.drop off).take len)
        else encodeSpecNoPad T.alphabet ((source.drop off).take len)) := by
  set seg := (source.drop off).take len
  have hlines := encodeLines_of_not_dvd T.length_alphabet (by decide : ¬ 4 ∣ integerMaxValue) hlen
  rw [Nat.div_eq_of_lt hbound,List.replicate_zero,List.append_nil] at hlines
  simp only [encodeSegment,hlines,pure_bind]
  cases doPadding
  · -- the `=` at the end are dropped, and only they: every other character is one of the alphabet
    have hpad := encodeSpec_eq_encodeSpecNoPad T.alphabet seg
    have hu : ∀ c ∈ (encodeSpecNoPad T.alphabet seg).getLast?, c ≠ equalsSign := by
      intro c hc
      obtain ⟨s,hs,rfl⟩ := Radix64.mem_encodeNoPad _ (List.mem_of_getLast? hc)
      exact T.sym_ne hs
    have hlen' : (encodeSpec T.alphabet seg).length =
        (encodeSpecNoPad T.alphabet seg).length + Radix64.padCount seg.length := by
      rw [hpad,List.length_append,List.length_replicate]
    have hstrip := stripPadding_append (l := encodeSpec T.alphabet seg) hu _ (by
      rw [← hlen',List.take_length]
      exact hpad)
    rw [if_neg Bool.false_ne_true,hlen',hstrip,pure_bind,hpad,List.take_left' rfl]
    rfl
  · simp only [if_true,List.take_length]
    rfl

/-- The codec round-trips every byte array whose text fits an `int` with room
for the decoder's `len * 3`: standard, web-safe, padded or not. -/
theorem base64_round_trip (x : List UInt8) (hx : 4 * ((x.length + 2) / 3) ≤ 715827882) :
    (encode x >>= decode) = pure x ∧
      ∀ doPadding : Bool, (encodeWebSafe x doPadding >>= decodeWebSafe) = pure x ∧
        (encodeSegment x 0 x.length alphabet doPadding >>= decode) = pure x := by
  have hbound : (x.length + 2) / 3 * 4 < integerMaxValue := by
    unfold integerMaxValue
    omega
  have hseg : (x.drop 0).take x.length = x := by simp
  have hround : ∀ (T : Tables) (doPadding : Bool),
      (encodeSegment x 0 x.length T.alphabet doPadding >>= fun y => decodeSegment y 0 y.length T.decodabet) =
        pure x := by
    intro T doPadding
    rw [encodeSegment_eq T (by simp) hbound doPadding,hseg,pure_bind]
    exact decodeSegment_encodeSpec T x doPadding
  exact ⟨hround standard true,fun doPadding => ⟨hround webSafe doPadding,hround standard doPadding⟩⟩

theorem base64_round_trip_man :
    4 * ((([77, 97, 110] : List UInt8).length + 2) / 3) ≤ 715827882 ∧
      ((encode [77, 97, 110] >>= decode) = pure [77, 97, 110] ∧
        ∀ doPadding : Bool, (encodeWebSafe [77, 97, 110] doPadding >>= decodeWebSafe) = pure [77, 97, 110] ∧
          (encodeSegment [77, 97, 110] 0 3 alphabet doPadding >>= decode) = pure [77, 97, 110]) :=
  ⟨by decide,base64_round_trip [77, 97, 110] (by decide)⟩

end V2rayZt.Ang.Base64
