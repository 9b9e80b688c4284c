import FlatQuery.Keyword

/-!
# FlatQuery.Proofs.Letters

The characters that keywords are spelled with.  Few characters have a Latin capital as their upper
case, and all of them are name characters; no blank is one.

* `eq_or_of_upper_eq` — the characters whose upper case is a given capital;
* `isWordChar_of_upper_eq` — they are name characters;
* `isWordChar_of_isBlank` — a blank is none.
-/

namespace FlatQuery

/-! ## capitals -/

theorem isUpper_iff_toNat {c : Char} : c.isUpper = true ↔ 65 ≤ c.toNat ∧ c.toNat ≤ 90 := by
  have hc : c.isUpper = decide (65 ≤ c.val ∧ c.val ≤ 90) := rfl
  simp [hc, UInt32.le_iff_toNat_le, ← Char.toNat_val]

/-- A character made of a code point has that code point, unless it has none. -/
theorem toNat_ofNat_eq (n : Nat) : (Char.ofNat n).toNat = n ∨ (Char.ofNat n).toNat = 0 := by
  by_cases h : n.isValidChar
  · left
    have hn : Char.ofNat n = Char.ofNatAux n h := dif_pos h
    rw [hn]
    rfl
  · right
    have hn : Char.ofNat n = '\x00' := dif_neg h
    rw [hn]
    rfl

/-- The code points of capitals are their own upper case. -/
theorem upper_ofNat : ∀ n < 91, 65 ≤ n → upper (Char.ofNat n) = [Char.ofNat n] := by
  decide +kernel

theorem upper_of_isUpper {l : Char} (h : l.isUpper = true) : upper l = [l] := by
  obtain ⟨h₁, h₂⟩ := isUpper_iff_toNat.1 h
  have hu := upper_ofNat l.toNat (by omega) h₁
  rwa [Char.ofNat_toNat] at hu

/-- An upper case of several characters has more than one. -/
theorem two_le_length_of_mem_expansions :
    ∀ p ∈ uppercaseExpansions, 2 ≤ p.2.length := by decide +kernel

/-- The runs that lead to a capital: the small letters, the dotless `ı` and the long `ſ`. -/
theorem run_of_target_le : ∀ r ∈ uppercaseRuns, r.target ≤ 90 →
    r.first = 0x61 ∧ r.last = 0x7A ∧ r.target = 0x41 ∨
      r.first = 0x131 ∧ r.last = 0x131 ∧ r.target = 0x49 ∨
      r.first = 0x17F ∧ r.last = 0x17F ∧ r.target = 0x53 := by decide +kernel

/-- A character whose upper case is a capital is that capital, its small letter, a dotless `ı` or a
long `ſ`. -/
theorem eq_or_of_upper_eq {c l : Char} (hl : l.isUpper = true) (h : upper c = [l]) :
    c = l ∨ c.toNat = l.toNat + 32 ∨ c.toNat = 0x131 ∧ l.toNat = 0x49 ∨
      c.toNat = 0x17F ∧ l.toNat = 0x53 := by
  obtain ⟨hl₁, hl₂⟩ := isUpper_iff_toNat.1 hl
  rw [upper, mapCase] at h
  split at h
  · -- an expansion has two characters at least
    next codes hc =>
      obtain ⟨l₁, l₂, hm, -⟩ := List.lookup_eq_some_iff.1 hc
      have hp := two_le_length_of_mem_expansions (c.toNat, codes) (by rw [hm]; simp)
      have hlen := congrArg List.length h
      rw [List.length_map, List.length_singleton] at hlen
      simp only [hlen] at hp
      omega
  · split at h
    · next code hc =>
        obtain ⟨r, hr, ⟨h₁, h₂, -⟩, hcode⟩ := CaseRun.mem_of_image? hc
        have hcl : Char.ofNat code = l := by simpa using h
        have hcode' : code = l.toNat := by
          rcases toNat_ofNat_eq code with h' | h'
          · rw [← h', hcl]
          · rw [hcl] at h'
            omega
        rcases run_of_target_le r hr (by omega) with ⟨hf, hla, ht⟩ | ⟨hf, hla, ht⟩ | ⟨hf, hla, ht⟩
        · exact .inr (.inl (by omega))
        · exact .inr (.inr (.inl (by omega)))
        · exact .inr (.inr (.inr (by omega)))
    · left
      simpa using h

/-- A character whose upper case is a capital other than `I` and `S` is that capital or its small
letter. -/
theorem eq_or_eq_of_upper_eq {c l : Char} (hl : l.isUpper = true) (hI : l ≠ 'I') (hS : l ≠ 'S')
    (h : upper c = [l]) : c = l ∨ c = Char.ofNat (l.toNat + 32) := by
  rcases eq_or_of_upper_eq hl h with hc | hc | ⟨-, hc⟩ | ⟨-, hc⟩
  · exact .inl hc
  · right
    rw [← hc, Char.ofNat_toNat]
  · refine absurd ?_ hI
    rw [← Char.ofNat_toNat l, hc]
  · refine absurd ?_ hS
    rw [← Char.ofNat_toNat l, hc]

/-! ## name characters and blanks -/

/-- Capitals, small letters, the dotless `ı` and the long `ſ` are letters. -/
theorem inRanges_alphanumericRanges : ∀ n < 0x180,
    65 ≤ n ∧ n ≤ 90 ∨ 97 ≤ n ∧ n ≤ 122 ∨ n = 0x131 ∨ n = 0x17F →
      inRanges alphanumericRanges n = true := by decide +kernel

/-- Whatever has a capital as its upper case is a name character. -/
theorem isWordChar_of_upper_eq {c l : Char} (hl : l.isUpper = true) (h : upper c = [l]) :
    isWordChar c = true := by
  obtain ⟨hl₁, hl₂⟩ := isUpper_iff_toNat.1 hl
  have hc := (eq_or_of_upper_eq hl h).imp_left fun hcl : c = l => congrArg Char.toNat hcl
  have ha : inRanges alphanumericRanges c.toNat = true :=
    inRanges_alphanumericRanges c.toNat (by omega) (by omega)
  rw [isWordChar, isAlphanumeric, ha, Bool.true_or]

/-- No code point of a blank is that of a letter or a number, or of the underscore. -/
theorem inRanges_of_blankRanges : ∀ r ∈ blankRanges, ∀ k < r.2 + 1 - r.1,
    inRanges alphanumericRanges (r.1 + k) = false ∧ r.1 + k ≠ 0x5F := by decide +kernel

theorem isWordChar_of_isBlank {c : Char} (h : isBlank c = true) : isWordChar c = false := by
  obtain ⟨r, hr, h₁, h₂⟩ := exists_range_of_inRanges h
  obtain ⟨ha, hu⟩ := inRanges_of_blankRanges r hr (c.toNat - r.1) (by omega)
  rw [Nat.add_sub_cancel' h₁] at ha hu
  have hc : (c == '_') = false := by
    rw [beq_eq_false_iff_ne]
    rintro rfl
    exact hu rfl
  rw [isWordChar, isAlphanumeric, ha, hc, Bool.or_false]

theorem isBlank_of_isWordChar {c : Char} (h : isWordChar c = true) : isBlank c = false := by
  rw [Bool.eq_false_iff]
  intro hb
  rw [isWordChar_of_isBlank hb] at h
  cases h

/-! ## ASCII case -/

theorem toLower_of_not_isUpper {c : Char} (h : c.isUpper = false) : c.toLower = c := by
  have hc : ¬ (c.val ≥ 'A'.val ∧ c.val ≤ 'Z'.val) := of_decide_eq_false h
  exact dif_neg hc

/-- Capitals and their small letters have one upper case, and no small letter is blank. -/
theorem toLower_ofNat : ∀ n < 91, 65 ≤ n →
    upper (Char.ofNat n).toLower = upper (Char.ofNat n) ∧
      isBlank (Char.ofNat n).toLower = isBlank (Char.ofNat n) := by decide +kernel

/-- Small letters have the upper case of their capitals, and none is blank. -/
theorem upper_toLower (c : Char) : upper c.toLower = upper c ∧ isBlank c.toLower = isBlank c := by
  cases h : c.isUpper with
  | false =>
      rw [toLower_of_not_isUpper h]
      exact ⟨rfl, rfl⟩
  | true =>
      obtain ⟨h₁, h₂⟩ := isUpper_iff_toNat.1 h
      have hc := toLower_ofNat c.toNat (by omega) h₁
      rwa [Char.ofNat_toNat] at hc

end FlatQuery
