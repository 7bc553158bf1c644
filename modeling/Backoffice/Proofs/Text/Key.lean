import Backoffice.Text.Key
import Mathlib.Data.List.Induction
import Mathlib.Data.List.Nodup
import Mathlib.Data.List.TakeWhile
import Mathlib.Data.Nat.Bitwise

/-!
Keys are in normal form: a key is its own key.

Lower-casing a character leads to characters that are their own lower case, which the tables are
checked for as sets of code points, each kept as one number with a bit for every member. Main
statement: `key_key`; only a blank text has an empty key (`key_eq_empty_iff`), keys joined by a mark
that is neither blank nor a capital are keys again (`IsKey.append`), and the distinct keys of a list
are its keys, each once.
-/

namespace Backoffice.Text

def CaseRun.members (r : CaseRun) : List Nat :=
  (List.range ((r.last - r.first) / r.step + 1)).map fun i => r.first + i * r.step

def CaseRun.images (r : CaseRun) : List Nat :=
  r.members.map fun (n : Nat) => ((n : Int) + r.shift).toNat

def bits (ns : List Nat) : Nat :=
  ns.foldr (fun n acc => acc ||| 1 <<< n) 0

theorem testBit_bits (ns : List Nat) (n : Nat) : (bits ns).testBit n = decide (n ∈ ns) := by
  induction ns with
  | nil => simp [bits]
  | cons m ns ih =>
    have hone : (1 <<< m).testBit n = decide (n = m) := by
      rw [Nat.one_shiftLeft, Nat.testBit_two_pow]
      simp [eq_comm]
    simp only [bits, List.foldr_cons, Nat.testBit_or, hone] at ih ⊢
    rw [ih]
    simp [Bool.or_comm]

theorem not_mem_of_bits {ns ms : List Nat} (h : bits ns &&& bits ms = 0) {n : Nat} (hn : n ∈ ns) :
    n ∉ ms := by
  intro hm
  have hboth : (bits ns &&& bits ms).testBit n = true := by
    simp [Nat.testBit_and, testBit_bits, hn, hm]
  simp [h] at hboth

def movedPoints : List Nat := lowerRuns.flatMap CaseRun.members

def lowerPoints : List Nat := lowerRuns.flatMap CaseRun.images

def blankPoints : List Nat :=
  (List.range' 0x9 5) ++ [0x20, 0x85, 0xA0, 0x1680] ++ (List.range' 0x2000 11) ++
    [0x2028, 0x2029, 0x202F, 0x205F, 0x3000]

theorem isBlank_iff (c : Char) : isBlank c = true ↔ c.toNat ∈ blankPoints := by
  simp only [isBlank, blankPoints, List.mem_append, List.mem_range'_1, List.mem_cons,
    List.not_mem_nil, Bool.or_eq_true, Bool.and_eq_true, decide_eq_true_eq, beq_iff_eq,
    or_false]
  omega

theorem lowerPoints_disjoint :
    bits lowerPoints &&& bits (0x130 :: movedPoints ++ blankPoints) = 0 := by
  decide +kernel

theorem shifted_eq_some {n m : Nat} {runs : List CaseRun} (h : shifted n runs = some m) :
    n ∈ runs.flatMap CaseRun.members ∧ m ∈ runs.flatMap CaseRun.images := by
  induction runs with
  | nil => cases h
  | cons r runs ih =>
    unfold shifted at h
    split at h
    · cases h
    · rename_i hfirst
      split at h
      · rename_i hrun
        simp only [Bool.and_eq_true, decide_eq_true_eq, beq_iff_eq] at hrun
        have hmember : n ∈ r.members := by
          have hstep := Nat.div_add_mod (n - r.first) r.step
          refine List.mem_map.2 ⟨(n - r.first) / r.step, ?_, ?_⟩
          · have hle := Nat.div_le_div_right (c := r.step) (Nat.sub_le_sub_right hrun.1 r.first)
            rw [List.mem_range]
            omega
          · rw [Nat.mul_comm]
            omega
        cases h
        exact ⟨List.mem_flatMap.2 ⟨r, List.mem_cons_self, hmember⟩, List.mem_flatMap.2
          ⟨r, List.mem_cons_self, List.mem_map.2 ⟨n, hmember, rfl⟩⟩⟩
      · simp [ih h]

/-- A character that is its own lower case, wherever it stands. -/
structure Settled (c : Char) : Prop where
  lowerChar : lowerChar c = [c]
  plain : c.toNat ≠ capitalSigma

theorem settled_of_not_mem {c : Char} (h : c.toNat ∉ 0x130 :: movedPoints) : Settled c := by
  rw [List.mem_cons, not_or] at h
  constructor
  case lowerChar =>
    cases hm : shifted c.toNat lowerRuns with
    | none => simp [Text.lowerChar, h.1, hm]
    | some m => exact absurd (shifted_eq_some hm).1 h.2
  case plain =>
    intro hsigma
    have hmoved : capitalSigma ∈ movedPoints := by decide
    exact h.2 (hsigma ▸ hmoved)

structure Lowered (c d : Char) : Prop where
  settled : Settled d
  blank : isBlank d = true → isBlank c = true

theorem lowered_of_not_mem (c : Char) {d : Char}
    (h : d.toNat ∉ 0x130 :: movedPoints ++ blankPoints) : Lowered c d where
  settled := settled_of_not_mem fun hd => h (List.mem_append_left _ hd)
  blank hd := absurd (List.mem_append_right _ ((isBlank_iff d).1 hd)) h

theorem toNat_ofNat (n : Nat) : (Char.ofNat n).toNat = n ∨ (Char.ofNat n).toNat = 0 := by
  rw [Char.ofNat]
  by_cases h : n.isValidChar
  · rw [dif_pos h]
    exact .inl rfl
  · rw [dif_neg h]
    exact .inr rfl

theorem lowered_of_mem_lowerChar {c d : Char} (h : d ∈ lowerChar c) : Lowered c d := by
  unfold lowerChar at h
  split at h
  · rw [List.mem_cons, List.mem_singleton] at h
    rcases h with rfl | rfl <;> exact lowered_of_not_mem c (by decide +kernel)
  · rename_i hdotted
    split at h
    · rename_i m hm
      rw [List.mem_singleton] at h
      subst h
      apply lowered_of_not_mem
      rcases toNat_ofNat m with h | h <;> rw [h]
      · exact not_mem_of_bits lowerPoints_disjoint (shifted_eq_some hm).2
      · decide +kernel
    · rename_i hm
      rw [List.mem_singleton] at h
      subst h
      refine ⟨⟨by simp [lowerChar, hdotted, hm], fun hsigma => ?_⟩, id⟩
      rw [hsigma] at hm
      exact absurd hm (by decide +kernel)

theorem lowerAfter_cons (before : List Char) (c : Char) (rest : List Char) :
    ∃ image, image ≠ [] ∧ (∀ d ∈ image, Lowered c d) ∧
      lowerAfter before (c :: rest) = image ++ lowerAfter (c :: before) rest := by
  refine ⟨_, ?_, ?_, rfl⟩
  · repeat' split
    all_goals simp [lowerChar]
    repeat' split
    all_goals simp
  · intro d hd
    split at hd
    · split at hd
      all_goals
        rw [List.mem_singleton] at hd
        subst hd
        exact lowered_of_not_mem c (by decide +kernel)
    · exact lowered_of_mem_lowerChar hd

theorem lowered_of_mem {d : Char} {before cs : List Char} (h : d ∈ lowerAfter before cs) :
    ∃ c, Lowered c d := by
  induction cs generalizing before with
  | nil => cases h
  | cons c rest ih =>
    obtain ⟨image, -, hlowered, himage⟩ := lowerAfter_cons before c rest
    rw [himage, List.mem_append] at h
    rcases h with h | h
    · exact ⟨c, hlowered d h⟩
    · exact ih h

theorem head_lowerAfter {d : Char} {before cs : List Char}
    (h : (lowerAfter before cs).head? = some d) : ∃ c, cs.head? = some c ∧ Lowered c d := by
  cases cs with
  | nil => cases h
  | cons c rest =>
    obtain ⟨image, hne, hlowered, himage⟩ := lowerAfter_cons before c rest
    cases image with
    | nil => exact absurd rfl hne
    | cons e image =>
      rw [himage] at h
      cases h
      exact ⟨c, rfl, hlowered d List.mem_cons_self⟩

theorem last_lowerAfter {d : Char} {before cs : List Char}
    (h : (lowerAfter before cs).getLast? = some d) : ∃ c, cs.getLast? = some c ∧ Lowered c d := by
  induction cs generalizing before with
  | nil => cases h
  | cons c rest ih =>
    obtain ⟨image, hne, hlowered, himage⟩ := lowerAfter_cons before c rest
    rw [himage, List.getLast?_append] at h
    cases rest with
    | nil => exact ⟨c, rfl, hlowered d (List.mem_of_getLast? (by simpa [lowerAfter] using h))⟩
    | cons c' rest =>
      cases hlast : (lowerAfter (c :: before) (c' :: rest)).getLast? with
      | none =>
        obtain ⟨image', hne', -, himage'⟩ := lowerAfter_cons (c :: before) c' rest
        simp [himage', hne'] at hlast
      | some e =>
        rw [hlast] at h
        cases h
        simpa using ih hlast

theorem lowerAfter_of_settled {cs : List Char} (h : ∀ c ∈ cs, Settled c) (before : List Char) :
    lowerAfter before cs = cs := by
  induction cs generalizing before with
  | nil => rfl
  | cons c rest ih =>
    have hc := h c List.mem_cons_self
    have hrest := ih (fun d hd => h d (List.mem_cons_of_mem _ hd)) (c :: before)
    simp [lowerAfter, hc.plain, hc.lowerChar, hrest]

variable {p : Char → Bool} {cs : List Char} {c : Char}

theorem head_dropWhile (h : (cs.dropWhile p).head? = some c) : p c = false := by
  have hnot := List.head?_dropWhile_not p cs
  rwa [h] at hnot

theorem last_stripChars (h : (stripChars p cs).getLast? = some c) : p c = false := by
  rw [stripChars, List.getLast?_reverse] at h
  exact head_dropWhile h

theorem head_stripChars (h : (stripChars p cs).head? = some c) : p c = false := by
  rw [stripChars, List.head?_reverse] at h
  have hsuffix : (cs.dropWhile p).reverse.dropWhile p <:+ (cs.dropWhile p).reverse :=
    List.dropWhile_suffix p
  obtain ⟨dropped, hdropped⟩ := hsuffix
  refine @head_dropWhile p cs c ?_
  rw [← List.getLast?_reverse, ← hdropped, List.getLast?_append, h]
  rfl

theorem dropWhile_of_head (h : ∀ c, cs.head? = some c → p c = false) : cs.dropWhile p = cs := by
  cases cs with
  | nil => rfl
  | cons c cs => simp [h c rfl]

theorem stripChars_of_ends (hhead : ∀ c, cs.head? = some c → p c = false)
    (hlast : ∀ c, cs.getLast? = some c → p c = false) : stripChars p cs = cs := by
  rw [stripChars, dropWhile_of_head hhead, dropWhile_of_head, List.reverse_reverse]
  simpa using hlast

theorem all_dropWhile (p : Char → Bool) (cs : List Char) : (cs.dropWhile p).all p = cs.all p := by
  induction cs with
  | nil => rfl
  | cons c cs ih => by_cases h : p c <;> simp [h, ih]

theorem blank_trim (s : String) : blank (trim s) = blank s := by
  simp [blank, trim, stripChars, all_dropWhile]

theorem trim_of_blank {s : String} (h : blank s = true) : trim s = "" := by
  have hnone : s.toList.dropWhile isBlank = [] :=
    List.dropWhile_eq_nil_iff.2 (List.all_eq_true.1 h)
  rw [trim, stripChars, hnone]
  rfl

theorem blank_of_nonBlank {s t : String} (h : nonBlank s = some t) : blank t = false := by
  unfold nonBlank at h
  split at h <;> cases h
  rw [blank_trim]
  simp_all

structure IsKey (cs : List Char) : Prop where
  settled : ∀ c ∈ cs, Settled c
  head : ∀ c, cs.head? = some c → isBlank c = false
  last : ∀ c, cs.getLast? = some c → isBlank c = false

theorem isKey_key (s : String) : IsKey (key s).toList := by
  simp only [key, lower, trim, String.toList_ofList]
  constructor
  case settled =>
    intro c hc
    obtain ⟨_, hlowered⟩ := lowered_of_mem hc
    exact hlowered.settled
  case head =>
    intro d hd
    obtain ⟨c, hc, hlowered⟩ := head_lowerAfter hd
    exact Bool.eq_false_iff.2 fun hblank =>
      Bool.eq_false_iff.1 (head_stripChars hc) (hlowered.blank hblank)
  case last =>
    intro d hd
    obtain ⟨c, hc, hlowered⟩ := last_lowerAfter hd
    exact Bool.eq_false_iff.2 fun hblank =>
      Bool.eq_false_iff.1 (last_stripChars hc) (hlowered.blank hblank)

theorem key_of_isKey {s : String} (h : IsKey s.toList) : key s = s := by
  simp only [key, lower, trim, stripChars_of_ends h.head h.last,
    lowerAfter_of_settled h.settled, String.ofList_toList]

theorem isKey_of_settled {cs : List Char} (hsettled : ∀ c ∈ cs, Settled c)
    (hblank : ∀ c ∈ cs, isBlank c = false) : IsKey cs where
  settled := hsettled
  head c hc := hblank c (List.mem_of_head? hc)
  last c hc := hblank c (List.mem_of_getLast? hc)

@[simp] theorem trim_trim (s : String) : trim (trim s) = trim s := by
  have hends : stripChars isBlank (trim s).toList = (trim s).toList := by
    rw [trim, String.toList_ofList]
    exact stripChars_of_ends (fun _ => head_stripChars) fun _ => last_stripChars
  rw [trim, hends, String.ofList_toList]

@[simp] theorem trim_key (s : String) : trim (key s) = key s := by
  rw [trim, stripChars_of_ends (isKey_key s).head (isKey_key s).last, String.ofList_toList]

theorem key_trim (s : String) : key (trim s) = key s := by
  rw [key, trim_trim, key]

@[simp] theorem key_key (s : String) : key (key s) = key s := key_of_isKey (isKey_key s)

theorem key_ne_empty {s : String} (h : blank s = false) : key s ≠ "" := by
  rw [← blank_trim, blank] at h
  unfold key lower
  cases hchars : (trim s).toList with
  | nil => simp [hchars] at h
  | cons c rest =>
    obtain ⟨image, hne, -, himage⟩ := lowerAfter_cons [] c rest
    rw [himage]
    intro hempty
    have hnone := congrArg String.toList hempty
    simp [hne] at hnone

theorem key_eq_empty_iff {s : String} : key s = "" ↔ blank s = true := by
  constructor
  case mp =>
    intro hempty
    by_contra hblank
    exact key_ne_empty (Bool.eq_false_iff.2 hblank) hempty
  case mpr =>
    intro hblank
    rw [key, trim_of_blank hblank]
    rfl

theorem blank_key {s : String} (h : key s ≠ "") : blank (key s) = false := by
  have hhead := (isKey_key s).head
  unfold blank
  cases hchars : (key s).toList with
  | nil => exact absurd (String.toList_injective hchars) h
  | cons c rest =>
    rw [hchars] at hhead
    simp [hhead c rfl]

theorem IsKey.append {xs ys : List Char} (hx : IsKey xs) (hy : IsKey ys) {m : Char}
    (hm : Settled m) (hblank : isBlank m = false) : IsKey (xs ++ m :: ys) := by
  constructor
  case settled =>
    intro c hc
    rw [List.mem_append, List.mem_cons] at hc
    rcases hc with hc | rfl | hc
    · exact hx.settled c hc
    · exact hm
    · exact hy.settled c hc
  case head =>
    intro c hc
    cases xs with
    | nil => simpa [← Option.some.inj hc] using hblank
    | cons x xs => exact hx.head c hc
  case last =>
    intro c hc
    cases hlast : ys.getLast? with
    | none =>
      simp only [List.getLast?_append, List.getLast?_cons, hlast] at hc
      simpa [← Option.some.inj hc] using hblank
    | some y =>
      simp only [List.getLast?_append, List.getLast?_cons, hlast] at hc
      exact hy.last c (hlast.trans hc)

theorem distinctKeys_concat (items : List String) (item : String) :
    distinctKeys (items ++ [item]) =
      if key item = "" ∨ key item ∈ distinctKeys items then distinctKeys items
      else distinctKeys items ++ [key item] := by
  simp [distinctKeys, List.foldl_append]

theorem nodup_distinctKeys (items : List String) : (distinctKeys items).Nodup := by
  induction items using List.reverseRecOn with
  | nil => exact .nil
  | append_singleton items item ih =>
    rw [distinctKeys_concat]
    split
    · exact ih
    · rename_i h
      refine List.Nodup.append ih (List.nodup_singleton _) ?_
      exact List.disjoint_singleton.2 fun hmem => h (.inr hmem)

end Backoffice.Text
