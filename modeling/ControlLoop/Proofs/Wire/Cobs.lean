import ControlLoop.Wire.Bytes

/-!
# Frames without zeros

Stuffed bytes hold no zero, grow by one byte for every 254 and by one more, and unstuff to what they were. So the zero
at the end of a frame is the first one, and frames that follow one another can be told apart.
-/

namespace ControlLoop.Wire.Cobs

set_option autoImplicit false

/-- Cuts a string of bytes after each zero. Bytes after the last zero are a piece of their own. -/
def cut : List UInt8 → List (List UInt8)
  | [] => []
  | b :: rest =>
    if b = 0 then [b] :: cut rest
    else
      match cut rest with
      | [] => [[b]]
      | piece :: pieces => (b :: piece) :: pieces

theorem toNat_code {length : Nat} (h : length ≤ 253) : (UInt8.ofNat (length + 1)).toNat = length + 1 := by
  rw [UInt8.toNat_ofNat']
  omega

theorem code_ne {length : Nat} {c : UInt8} (h : length ≤ 253) (hc : c.toNat = 0 ∨ c.toNat = 255) :
    UInt8.ofNat (length + 1) ≠ c := by
  intro heq
  have hcode := toNat_code h
  rw [heq] at hcode
  omega

theorem stuffFrom_ne_nil (piece data : List UInt8) : stuffFrom piece data ≠ [] := by
  fun_induction stuffFrom piece data with
  | case1 piece => exact List.cons_ne_nil _ _
  | case2 piece rest ih => exact List.cons_ne_nil _ _
  | case3 piece b rest hb hlength ih => exact List.cons_ne_nil _ _
  | case4 piece b rest hb hlength ih => exact ih

theorem zero_not_mem_stuffFrom {piece : List UInt8} (data : List UInt8) (hzero : 0 ∉ piece)
    (hlength : piece.length ≤ 253) : 0 ∉ stuffFrom piece data := by
  fun_induction stuffFrom piece data with
  | case1 piece =>
    intro hmem
    rcases List.mem_cons.mp hmem with hcode | hmem
    · exact code_ne hlength (Or.inl rfl) hcode.symm
    · exact hzero hmem
  | case2 piece rest ih =>
    intro hmem
    rcases List.mem_append.mp hmem with hmem | hmem
    · rcases List.mem_cons.mp hmem with hcode | hmem
      · exact code_ne hlength (Or.inl rfl) hcode.symm
      · exact hzero hmem
    · exact ih (List.not_mem_nil) (Nat.zero_le _) hmem
  | case3 piece b rest hb hfull ih =>
    intro hmem
    rcases List.mem_append.mp hmem with hmem | hmem
    · rcases List.mem_cons.mp hmem with hcode | hmem
      · exact absurd hcode (by decide)
      · exact hzero hmem
    · rcases List.mem_cons.mp hmem with hb' | hmem
      · exact hb hb'.symm
      · exact ih (List.not_mem_nil) (Nat.zero_le _) hmem
  | case4 piece b rest hb hfull ih =>
    apply ih
    · intro hmem
      rcases List.mem_append.mp hmem with hmem | hmem
      · exact hzero hmem
      · exact hb (List.mem_singleton.mp hmem).symm
    · rw [List.length_append, List.length_singleton]
      omega

/-- What the pieces add to the bytes is one byte for each full piece, and one for the last. -/
theorem length_stuffFrom_le {piece : List UInt8} (data : List UInt8) (hlength : piece.length ≤ 253) :
    (stuffFrom piece data).length ≤ piece.length + data.length + (piece.length + data.length) / 254 + 1 := by
  fun_induction stuffFrom piece data with
  | case1 piece =>
    simp only [List.length_cons, List.length_nil]
    omega
  | case2 piece rest ih =>
    have hrest := ih (Nat.zero_le _)
    simp only [List.length_append, List.length_cons, List.length_nil] at hrest ⊢
    omega
  | case3 piece b rest hb hfull ih =>
    have hrest := ih (Nat.zero_le _)
    simp only [List.length_append, List.length_cons, List.length_nil] at hrest ⊢
    omega
  | case4 piece b rest hb hfull ih =>
    simp only [List.length_append, List.length_cons, List.length_nil] at ih ⊢
    have hrest := ih (by omega)
    omega

/-- A piece with the right length in front of it comes off whole. -/
theorem unstuff_piece {code : UInt8} {piece : List UInt8} (after : List UInt8)
    (hcode : code.toNat = piece.length + 1) :
    unstuff (code :: piece ++ after) = do
      let tail ← unstuff after
      return piece ++ (if code = 255 ∨ after.isEmpty then [] else [0]) ++ tail := by
  have hlength : code.toNat - 1 = piece.length := by omega
  rw [List.cons_append, unstuff]
  simp only [hlength, List.take_left', List.drop_left', Nat.lt_irrefl, if_false]

theorem unstuff_stuffFrom {piece : List UInt8} (data : List UInt8) (hlength : piece.length ≤ 253) :
    unstuff (stuffFrom piece data) = .ok (piece ++ data) := by
  fun_induction stuffFrom piece data with
  | case1 piece =>
    have hpiece := unstuff_piece [] (toNat_code hlength)
    rw [List.append_nil] at hpiece
    rw [hpiece, unstuff]
    simp only [bind, Except.bind, pure, Except.pure, List.isEmpty_nil, or_true, if_true, List.append_nil]
  | case2 piece rest ih =>
    have hafter : ¬ (stuffFrom [] rest).isEmpty = true := by
      rw [List.isEmpty_iff]
      exact stuffFrom_ne_nil [] rest
    rw [unstuff_piece _ (toNat_code hlength), ih (Nat.zero_le _),
      if_neg (not_or.mpr ⟨code_ne hlength (Or.inr rfl), hafter⟩)]
    simp only [bind, Except.bind, pure, Except.pure, List.nil_append, List.append_assoc, List.singleton_append]
  | case3 piece b rest hb hfull ih =>
    have hcode : (255 : UInt8).toNat = (piece ++ [b]).length + 1 := by
      rw [List.length_append, hfull]
      rfl
    have hsplit : 255 :: piece ++ b :: stuffFrom [] rest = 255 :: (piece ++ [b]) ++ stuffFrom [] rest := by
      simp only [List.cons_append, List.append_assoc, List.nil_append]
    rw [hsplit, unstuff_piece _ hcode, ih (Nat.zero_le _), if_pos (Or.inl rfl)]
    simp only [bind, Except.bind, pure, Except.pure, List.nil_append, List.append_nil, List.append_assoc,
      List.singleton_append]
  | case4 piece b rest hb hfull ih =>
    rw [ih (by rw [List.length_append, List.length_singleton]; omega), List.append_assoc, List.singleton_append]

theorem unstuff_short {code : UInt8} {rest : List UInt8} (h : rest.length + 1 < code.toNat) :
    unstuff (code :: rest) = .error .badEncoding := by
  have htake : (rest.take (code.toNat - 1)).length < code.toNat - 1 := by
    rw [List.length_take]
    omega
  rw [unstuff]
  exact if_pos htake

/-- Stuffed bytes without their end unstuff to nothing, or to the data without its end. The data is taken to be too
short for a full piece, because the end of stuffed bytes is empty if the data ends with a full piece. -/
theorem unstuff_take_stuffFrom {piece data : List UInt8} (hlength : piece.length + data.length ≤ 253) {k : Nat}
    (hpos : 0 < k) (hk : k < (stuffFrom piece data).length) :
    unstuff ((stuffFrom piece data).take k) = .error .badEncoding ∨
      ∃ j, j < (piece ++ data).length ∧ unstuff ((stuffFrom piece data).take k) = .ok ((piece ++ data).take j) := by
  fun_induction stuffFrom piece data generalizing k with
  | case1 piece =>
    obtain ⟨k, rfl⟩ := Nat.exists_eq_add_one.mpr hpos
    have hcode := toNat_code (Nat.le_trans (Nat.le_add_right _ _) hlength)
    rw [List.length_cons] at hk
    refine Or.inl (unstuff_short ?_)
    rw [hcode, List.length_take]
    omega
  | case2 piece rest ih =>
    obtain ⟨k, rfl⟩ := Nat.exists_eq_add_one.mpr hpos
    have hpiece : piece.length ≤ 253 := Nat.le_trans (Nat.le_add_right _ _) hlength
    have hcode := toNat_code hpiece
    rw [List.length_cons] at hlength
    rw [List.cons_append, List.length_cons, List.length_append] at hk
    rw [List.cons_append, List.take_succ_cons]
    by_cases hshort : k < piece.length
    · refine Or.inl (unstuff_short ?_)
      rw [hcode, List.take_append_of_le_length (Nat.le_of_lt hshort), List.length_take]
      omega
    · obtain ⟨i, rfl⟩ := Nat.exists_eq_add_of_le (Nat.le_of_not_lt hshort)
      rw [List.take_length_add_append, ← List.cons_append, unstuff_piece _ hcode]
      by_cases hzero : i = 0
      · -- The cut is right behind the piece, so that nothing shows that a zero followed.
        subst hzero
        refine Or.inr ⟨piece.length, by simp, ?_⟩
        rw [List.take_zero, unstuff, List.take_left]
        simp [bind, Except.bind, pure, Except.pure]
      · have hafter : ¬ ((stuffFrom [] rest).take i).isEmpty = true := by
          rw [List.isEmpty_iff, List.take_eq_nil_iff]
          exact not_or.mpr ⟨hzero, stuffFrom_ne_nil [] rest⟩
        rw [if_neg (not_or.mpr ⟨code_ne hpiece (Or.inr rfl), hafter⟩)]
        rcases ih (by rw [List.length_nil]; omega) (Nat.pos_of_ne_zero hzero) (by omega) with hbad | ⟨j, hj, hok⟩
        · rw [hbad]
          exact Or.inl rfl
        · rw [List.nil_append] at hj hok
          rw [hok]
          refine Or.inr ⟨piece.length + (j + 1), ?_, ?_⟩
          · rw [List.length_append, List.length_cons]
            omega
          · rw [List.take_length_add_append, List.take_succ_cons]
            simp only [bind, Except.bind, pure, Except.pure, List.append_assoc, List.singleton_append]
  | case3 piece b rest hb hfull ih =>
    rw [List.length_cons] at hlength
    omega
  | case4 piece b rest hb hfull ih =>
    have hlength' : (piece ++ [b]).length + rest.length ≤ 253 := by
      rw [List.length_append, List.length_singleton]
      rw [List.length_cons] at hlength
      omega
    have hcut := ih hlength' hpos hk
    rwa [List.append_assoc, List.singleton_append] at hcut

theorem stuff_ne_nil (data : List UInt8) : stuff data ≠ [] := stuffFrom_ne_nil [] data

theorem zero_not_mem_stuff (data : List UInt8) : 0 ∉ stuff data :=
  zero_not_mem_stuffFrom data List.not_mem_nil (Nat.zero_le _)

theorem length_frame_le (data : List UInt8) : (frame data).length ≤ data.length + data.length / 254 + 2 := by
  have hstuff := @length_stuffFrom_le [] data (Nat.zero_le _)
  rw [List.length_nil, Nat.zero_add] at hstuff
  rw [frame, List.length_append, List.length_singleton, stuff]
  omega

theorem count_zero_frame (data : List UInt8) : (frame data).count 0 = 1 := by
  rw [frame, List.count_append, List.count_eq_zero.mpr (zero_not_mem_stuff data), List.count_singleton_self]

theorem getLast?_frame (data : List UInt8) : (frame data).getLast? = some 0 := List.getLast?_concat

theorem takeWhile_body {body : List UInt8} (rest : List UInt8) (hzero : 0 ∉ body) :
    (body ++ 0 :: rest).takeWhile (· != 0) = body := by
  have hbody : ∀ b ∈ body, (b != 0) = true := fun b hb => bne_iff_ne.mpr fun heq => hzero (heq ▸ hb)
  rw [List.takeWhile_append_of_pos hbody, List.takeWhile_cons_of_neg (by decide), List.append_nil]

theorem unframe_of_zero_not_mem {body : List UInt8} (hne : body ≠ []) (hzero : 0 ∉ body) :
    unframe body = unstuff body := by
  have hbody : ∀ b ∈ body, (b != 0) = true := fun b hb => bne_iff_ne.mpr fun heq => hzero (heq ▸ hb)
  have htake := @List.takeWhile_append_of_pos _ (· != 0) body [] hbody
  rw [List.append_nil, List.takeWhile_nil, List.append_nil] at htake
  rw [unframe, if_neg (by simpa using hne), htake]

/-- The first zero ends the frame, so what follows it does not matter. -/
theorem unframe_body {body : List UInt8} (rest : List UInt8) (hzero : 0 ∉ body) :
    unframe (body ++ 0 :: rest) = unstuff body := by
  rw [unframe, if_neg (by simp), takeWhile_body rest hzero]

theorem unframe_frame (data rest : List UInt8) : unframe (frame data ++ rest) = .ok data := by
  have hframe : frame data ++ rest = stuff data ++ 0 :: rest := by
    rw [frame, List.append_assoc, List.singleton_append]
  rw [hframe, unframe_body rest (zero_not_mem_stuff data)]
  exact unstuff_stuffFrom data (Nat.zero_le _)

theorem cut_body {body : List UInt8} (rest : List UInt8) (hzero : 0 ∉ body) :
    cut (body ++ 0 :: rest) = (body ++ [0]) :: cut rest := by
  induction body with
  | nil => rw [List.nil_append, cut, if_pos rfl, List.nil_append]
  | cons b body ih =>
    have hb : b ≠ 0 := (List.ne_of_not_mem_cons hzero).symm
    rw [List.cons_append, cut, if_neg hb, ih (List.not_mem_of_not_mem_cons hzero)]
    rfl

theorem cut_frame (data rest : List UInt8) : cut (frame data ++ rest) = frame data :: cut rest := by
  rw [frame, List.append_assoc, List.singleton_append]
  exact cut_body rest (zero_not_mem_stuff data)

end ControlLoop.Wire.Cobs
