import Backoffice.Proofs.Text.Key

namespace Backoffice.Text

def IsCapital (c : Char) : Prop := 65 ≤ c.toNat ∧ c.toNat ≤ 90

theorem asciiLower_of_not_capital {c : Char} (h : ¬IsCapital c) : asciiLower c = c := by
  unfold asciiLower
  split
  · rename_i hc
    simp only [Bool.and_eq_true, decide_eq_true_eq] at hc
    exact absurd hc h
  · rfl

theorem asciiLower_cases {P : Char → Char → Prop} (hkept : ∀ c, P c c)
    (hcapital : ∀ n ∈ List.range' 65 26, P (Char.ofNat n) (Char.ofNat (n + 32))) (c : Char) :
    P c (asciiLower c) := by
  by_cases h : IsCapital c
  · have hmem : c.toNat ∈ List.range' 65 26 := by
      rw [List.mem_range'_1]
      exact ⟨h.1, by have := h.2; omega⟩
    have hlower : asciiLower c = Char.ofNat (c.toNat + 32) := by
      simp [asciiLower, h.1, h.2]
    have hc := hcapital c.toNat hmem
    rwa [Char.ofNat_toNat, ← hlower] at hc
  · rw [asciiLower_of_not_capital h]
    exact hkept c

theorem isBlank_asciiLower (c : Char) : isBlank (asciiLower c) = isBlank c :=
  asciiLower_cases (P := fun c d => isBlank d = isBlank c) (fun _ => rfl) (by decide) c

theorem lowerChar_asciiLower (c : Char) : lowerChar (asciiLower c) = lowerChar c :=
  asciiLower_cases (P := fun c d => lowerChar d = lowerChar c) (fun _ => rfl) (by decide +kernel) c

theorem isSigma_asciiLower (c : Char) :
    ((asciiLower c).toNat == capitalSigma) = (c.toNat == capitalSigma) :=
  asciiLower_cases (P := fun c d => (d.toNat == capitalSigma) = (c.toNat == capitalSigma))
    (fun _ => rfl) (by decide) c

theorem ignorable_asciiLower (c : Char) :
    inRanges (asciiLower c).toNat caseIgnorable = inRanges c.toNat caseIgnorable :=
  asciiLower_cases (P := fun c d => inRanges d.toNat caseIgnorable = inRanges c.toNat caseIgnorable)
    (fun _ => rfl) (by decide +kernel) c

theorem cased_asciiLower (c : Char) :
    inRanges (asciiLower c).toNat cased = inRanges c.toNat cased :=
  asciiLower_cases (P := fun c d => inRanges d.toNat cased = inRanges c.toNat cased)
    (fun _ => rfl) (by decide) c

theorem dropWhile_map_asciiLower {p : Char → Bool} (hp : ∀ c, p (asciiLower c) = p c)
    (cs : List Char) : (cs.map asciiLower).dropWhile p = (cs.dropWhile p).map asciiLower := by
  induction cs with
  | nil => rfl
  | cons c cs ih =>
    simp only [List.map_cons, List.dropWhile_cons, hp]
    split
    · exact ih
    · rfl

theorem stripChars_map_asciiLower (cs : List Char) :
    stripChars isBlank (cs.map asciiLower) = (stripChars isBlank cs).map asciiLower := by
  simp only [stripChars, dropWhile_map_asciiLower isBlank_asciiLower, ← List.map_reverse]

theorem meetsCased_map_asciiLower (cs : List Char) :
    meetsCased (cs.map asciiLower) = meetsCased cs := by
  rw [meetsCased, dropWhile_map_asciiLower ignorable_asciiLower, meetsCased]
  cases cs.dropWhile fun c => inRanges c.toNat caseIgnorable with
  | nil => rfl
  | cons c _ => exact cased_asciiLower c

theorem lowerAfter_map_asciiLower (before cs : List Char) :
    lowerAfter (before.map asciiLower) (cs.map asciiLower) = lowerAfter before cs := by
  induction cs generalizing before with
  | nil => rfl
  | cons c cs ih =>
    simp only [List.map_cons, lowerAfter, isSigma_asciiLower, meetsCased_map_asciiLower,
      lowerChar_asciiLower, ← ih (c :: before)]

theorem key_eq_ofList (s : String) :
    key s = String.ofList (lowerAfter [] (stripChars isBlank (s.toList.map asciiLower))) := by
  rw [key, lower, trim, String.toList_ofList, stripChars_map_asciiLower,
    ← lowerAfter_map_asciiLower [] (stripChars isBlank s.toList), List.map_nil]

theorem key_eq_of_sameIgnoringCase {s t : String} (h : sameIgnoringCase s t = true) :
    key s = key t := by
  rw [key_eq_ofList, key_eq_ofList, beq_iff_eq.1 h]

/-- Taking the key is a projection: a key is its own key. It is in lower case and has no white space
at its ends, it is empty exactly for blank texts, and the case of ASCII letters does not matter. -/
theorem key_projects (s : String) :
    key (key s) = key s ∧
      (∀ c ∈ (key s).toList, Settled c) ∧
      (∀ c, (key s).toList.head? = some c ∨ (key s).toList.getLast? = some c →
        isBlank c = false) ∧
      (key s = "" ↔ blank s = true) ∧
      ∀ t, sameIgnoringCase (trim s) (trim t) = true → key s = key t := by
  refine ⟨key_key s, (isKey_key s).settled, ?ends, key_eq_empty_iff, ?case⟩
  case ends =>
    rintro c (hhead | hlast)
    · exact (isKey_key s).head c hhead
    · exact (isKey_key s).last c hlast
  case case =>
    intro t hsame
    rw [← key_trim s, ← key_trim t]
    exact key_eq_of_sameIgnoringCase hsame

/-- The capital dotted i takes two characters, and the last sigma ends a word before the mark. -/
theorem key_projects_notices :
    let s := "\u2003İlan ΘΕΣΕΙΣ.\n"
    let t := "\tİLAN ΘΕΣΕΙΣ. "
    let k := "i\u0307lan θεσεις."
    key s = k ∧ key k = k ∧ 'ς' ∈ k.toList ∧ Settled 'ς' ∧
      k.toList.head? = some 'i' ∧ isBlank 'i' = false ∧
      k.toList.getLast? = some '.' ∧ isBlank '.' = false ∧ blank s = false ∧
      sameIgnoringCase (trim s) (trim t) = true ∧ key t = k := by
  intro s t k
  have hkey : key s = k := by decide
  obtain ⟨hagain, hsettled, hends, hempty, hcase⟩ := key_projects s
  rw [hkey] at hagain hsettled hends hempty hcase
  have hsigma : 'ς' ∈ k.toList := by decide +kernel
  have hhead : k.toList.head? = some 'i' := by decide +kernel
  have hlast : k.toList.getLast? = some '.' := by decide
  have hsame : sameIgnoringCase (trim s) (trim t) = true := by decide
  refine ⟨hkey, hagain, hsigma, hsettled _ hsigma, hhead, hends _ (.inl hhead), hlast,
    hends _ (.inr hlast), ?_, hsame, (hcase t hsame).symm⟩
  exact Bool.eq_false_iff.2 fun hblank => absurd (hempty.2 hblank) (by decide)

end Backoffice.Text
