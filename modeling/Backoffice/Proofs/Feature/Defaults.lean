import Backoffice.Config
import Backoffice.Proofs.Feature.Gate
import Backoffice.Proofs.Json.Decode
import Backoffice.Proofs.Text.Key

/-!
The gate that settings describe, whatever the order in which its flags are read.

Flags have no order of their own, and two spellings of one key fall together. Main statement: the
order decides nothing of whether there is a gate, and nothing of what it answers for a key that has
a switch or whose spellings agree; for any other key it decides the answer (`seeds_alike_iff`).
-/

namespace Backoffice

open Feature (Gate isCurrent checkKey)

namespace Config

def normalized (flags : List (String × Bool)) : List (String × Bool) :=
  flags.map fun (key, on) => (Text.key key, on)

def defaultsOf (flags switches : List (String × Bool)) : Dict Bool :=
  Dict.ofList (normalized flags ++ switches)

/-- What becomes of the gate of these settings when the flags, and then the defaults made of them,
are read in any order. -/
inductive Seeds (c : Config) : Except Fault Gate → Prop
  | read {flags defaults : List (String × Bool)} : flags.Perm c.featureFlags.entries →
      defaults.Perm (defaultsOf flags c.switches.entries).entries → Seeds c (Gate.layered defaults)

variable {c : Config} {flags switches : List (String × Bool)} {key : String} {on : Bool} {g : Gate}

theorem seeds_featureDefaults (c : Config) : c.Seeds (Gate.layered c.featureDefaults.entries) :=
  .read (.refl _) (.refl _)

theorem mem_normalized_iff : (key, on) ∈ normalized flags ↔
    ∃ flag ∈ flags, Text.key flag.1 = key ∧ flag.2 = on := by
  simp [normalized]

theorem get?_defaultsOf (d : Dict Bool) (key : String) : (defaultsOf flags d.entries).get? key =
    (d.get? key).or ((Dict.ofList (normalized flags)).get? key) := by
  have hself : Dict.ofList d.entries = d := Dict.ofList_perm (.refl _)
  rw [defaultsOf, Dict.get?, Dict.entries_ofList, Entries.get?_ofList_append, ← Dict.entries_ofList,
    ← Dict.entries_ofList, hself]
  rfl

theorem spelled_of_get? (h : (Dict.ofList (normalized flags)).get? key = some on) :
    ∃ flag ∈ flags, Text.key flag.1 = key ∧ flag.2 = on := by
  rw [Dict.get?, Entries.get?_eq_some_iff (Dict.sorted _), Dict.entries_ofList] at h
  exact mem_normalized_iff.1 (Entries.mem_ofList h)

theorem not_spelled_of_get? (h : (Dict.ofList (normalized flags)).get? key = none) :
    ∀ flag ∈ flags, Text.key flag.1 ≠ key := by
  intro flag hflag hkey
  rw [Dict.get?_ofList, Option.map_eq_none_iff, List.getLast?_eq_none_iff,
    List.filter_eq_nil_iff] at h
  exact h _ (mem_normalized_iff.2 ⟨flag, hflag, hkey, rfl⟩) (beq_self_eq_true key)

theorem get?_normalized_iff (hsame : ∀ flag ∈ flags, ∀ other ∈ flags, Text.key flag.1 = key →
    Text.key other.1 = key → flag.2 = other.2) :
    (Dict.ofList (normalized flags)).get? key = some on ↔
      ∃ flag ∈ flags, Text.key flag.1 = key ∧ flag.2 = on := by
  refine ⟨spelled_of_get?, ?_⟩
  rintro ⟨flag, hflag, hkey, rfl⟩
  cases hget : (Dict.ofList (normalized flags)).get? key with
  | none => exact absurd hkey (not_spelled_of_get? hget flag hflag)
  | some on =>
    obtain ⟨other, hother, hkey', rfl⟩ := spelled_of_get? hget
    rw [hsame flag hflag other hother hkey hkey']

theorem get?_normalized_concat (flags : List (String × Bool)) (flag : String × Bool) :
    (Dict.ofList (normalized (flags ++ [flag]))).get? (Text.key flag.1) = some flag.2 := by
  rw [Dict.get?_ofList, normalized, List.map_append, List.filter_append]
  simp

theorem forM_checkKey_eq_ok_iff :
    flags.forM (fun (key, _) => checkKey key) = .ok () ↔ ∀ flag ∈ flags, isCurrent flag.1 = true := by
  induction flags with
  | nil => exact iff_of_true rfl (List.forall_mem_nil _)
  | cons flag flags ih =>
    have hcons : (flag :: flags).forM (fun (key, _) => checkKey key) =
        checkKey flag.1 >>= fun _ => flags.forM fun (key, _) => checkKey key := rfl
    rw [hcons, bind_eq_ok, List.forall_mem_cons, ← ih]
    simp [Feature.checkKey_eq_ok_iff]

theorem layered_eq_ok_iff : Gate.layered flags = .ok g ↔
    (∀ flag ∈ flags, isCurrent flag.1 = true) ∧
      g = ⟨Dict.ofList (normalized flags), some []⟩ := by
  rw [← forM_checkKey_eq_ok_iff, Gate.layered, Gate.normalizeDefaults, ← normalized]
  simp only [bind_eq_ok, Except.ok.injEq]
  constructor
  · rintro ⟨_, ⟨_, hchecks, rfl⟩, rfl⟩
    exact ⟨hchecks, rfl⟩
  · rintro ⟨hchecks, rfl⟩
    exact ⟨_, ⟨_, hchecks, rfl⟩, rfl⟩

theorem mem_keys_defaultsOf_iff {d : Dict Bool} : key ∈ (defaultsOf flags d.entries).keys ↔
    key ∈ d.keys ∨ ∃ flag ∈ flags, Text.key flag.1 = key := by
  rw [Dict.mem_keys_iff, Dict.mem_keys_iff, get?_defaultsOf, Option.isSome_or, Bool.or_eq_true]
  refine or_congr_right ?_
  cases h : (Dict.ofList (normalized flags)).get? key with
  | none =>
    exact iff_of_false (by simp) fun ⟨flag, hflag, hkey⟩ => not_spelled_of_get? h flag hflag hkey
  | some on =>
    obtain ⟨flag, hflag, hkey, -⟩ := spelled_of_get? h
    exact iff_of_true rfl ⟨flag, hflag, hkey⟩

theorem switchable_of_decode {v : Json} {d : Dict Bool} (h : decodeSwitches v = some d) :
    ∀ key ∈ d.keys, key ∈ switchable := by
  obtain ⟨parts, rest, hread⟩ := Reader.exists_of_decoder h
  rw [Reader.bind_apply, Option.bind_eq_some_iff] at hread
  obtain ⟨⟨found, rest'⟩, hfound, hread⟩ := hread
  cases hread
  have hkeys : ∀ o ∈ found, ∀ flag, o = some flag → flag.1 ∈ switchable := by
    refine Reader.forall_of_mapM (fun key hkey parts o rest ho flag hflag => ?_) hfound
    rw [Reader.bind_apply, Option.bind_eq_some_iff] at ho
    obtain ⟨⟨on, rest''⟩, -, ho⟩ := ho
    cases ho
    obtain ⟨on', -, rfl⟩ := Option.map_eq_some_iff.1 hflag
    exact hkey
  intro key hkey
  obtain ⟨flag, hflag, rfl⟩ := List.mem_map.1 hkey
  rw [Dict.entries_ofList] at hflag
  obtain ⟨o, ho, hsome⟩ := List.mem_filterMap.1 (Entries.mem_ofList hflag)
  exact hkeys o ho flag hsome

theorem fixed_of_switchable : ∀ key ∈ switchable, Text.key key = key ∧ isCurrent key = true := by
  decide +kernel

theorem isCurrent_key (key : String) : isCurrent (Text.key key) = isCurrent key := by
  rw [isCurrent, isCurrent, Text.key_key]

theorem layered_defaultsOf_eq_ok_iff {switches : Dict Bool}
    (hswitches : ∀ key ∈ switches.keys, key ∈ switchable) {defaults : List (String × Bool)}
    (h : defaults.Perm (defaultsOf flags switches.entries).entries) :
    Gate.layered defaults = .ok g ↔ (∀ flag ∈ flags, isCurrent flag.1 = true) ∧
      g = ⟨defaultsOf flags switches.entries, some []⟩ := by
  have hkeys : ∀ {P : String → Prop}, (∀ flag ∈ defaults, P flag.1) ↔
      (∀ key ∈ switches.keys, P key) ∧ ∀ flag ∈ flags, P (Text.key flag.1) := by
    intro P
    have hmem : ∀ key, key ∈ defaults.map (·.1) ↔
        key ∈ switches.keys ∨ ∃ flag ∈ flags, Text.key flag.1 = key :=
      fun key => (h.map (·.1)).mem_iff.trans mem_keys_defaultsOf_iff
    rw [← List.forall_mem_map (f := fun flag : String × Bool => flag.1)]
    simp only [hmem, or_imp, forall_and, forall_exists_index, and_imp, forall_apply_eq_imp_iff₂]
  have hnormal : normalized defaults = defaults := by
    have hfixed : ∀ flag ∈ defaults, Text.key flag.1 = flag.1 :=
      hkeys.2 ⟨fun key hkey => (fixed_of_switchable key (hswitches key hkey)).1,
        fun flag _ => Text.key_key flag.1⟩
    rw [normalized, List.map_congr_left (g := id), List.map_id]
    rintro ⟨key, on⟩ hflag
    simp only [hfixed (key, on) hflag, id]
  have hcurrent : ∀ key ∈ switches.keys, isCurrent key = true :=
    fun key hkey => (fixed_of_switchable key (hswitches key hkey)).2
  have hchecks : (∀ flag ∈ defaults, isCurrent flag.1 = true) ↔
      ∀ flag ∈ flags, isCurrent flag.1 = true := by
    rw [hkeys (P := fun key => isCurrent key = true), and_iff_right hcurrent]
    simp only [isCurrent_key]
  rw [layered_eq_ok_iff, hnormal, Dict.ofList_perm h, hchecks]

theorem forall_flags_iff {P : String → Prop} (h : flags.Perm c.featureFlags.entries) :
    (∀ flag ∈ flags, P flag.1) ↔ ∀ key ∈ c.featureFlags.keys, P key := by
  rw [Dict.keys, List.forall_mem_map]
  simp only [h.mem_iff]

theorem seeds_ok_iff (hswitches : ∀ key ∈ c.switches.keys, key ∈ switchable) :
    c.Seeds (.ok g) ↔ (∀ key ∈ c.featureFlags.keys, isCurrent key = true) ∧
      ∃ flags : List (String × Bool), flags.Perm c.featureFlags.entries ∧
        g = ⟨defaultsOf flags c.switches.entries, some []⟩ := by
  constructor
  · generalize hr : Except.ok g = r
    rintro @⟨flags, defaults, hflags, hdefaults⟩
    obtain ⟨hcurrent, rfl⟩ := (layered_defaultsOf_eq_ok_iff hswitches hdefaults).1 hr.symm
    exact ⟨(forall_flags_iff hflags).1 hcurrent, flags, hflags, rfl⟩
  · rintro ⟨hcurrent, flags, hflags, rfl⟩
    have hok : (∀ flag ∈ flags, isCurrent flag.1 = true) := (forall_flags_iff hflags).2 hcurrent
    rw [← (layered_defaultsOf_eq_ok_iff hswitches (.refl _)).2 ⟨hok, rfl⟩]
    exact .read hflags (.refl _)

theorem enabled_of_unchanged (h : g.overrides = some []) (ctx : Context) (key : String)
    (chain : Option Feature.Chain) :
    g.enabled ctx key chain = (fun _ => g.defaultFor key) <$> ctx.ensureActive := by
  have hnone : ∀ chain : Feature.Chain, chain.findSome? (g.overrideAt key) = none := by
    intro chain
    rw [List.findSome?_eq_none_iff]
    intro scope _
    simp [Gate.overrideAt, h]
  rw [Gate.enabled, Gate.resolve, hnone, map_eq_pure_bind]
  rfl

/-- The key has a switch, or all its spellings among the flags have one value. -/
def Settles (c : Config) (key : String) : Prop :=
  (c.switches.get? (Text.key key)).isSome = true ∨
    ∀ flag ∈ c.featureFlags.entries, ∀ other ∈ c.featureFlags.entries,
      Text.key flag.1 = Text.key key → Text.key other.1 = Text.key key → flag.2 = other.2

theorem get?_defaultsOf_of_settles (h : c.Settles key) {flags other : List (String × Bool)}
    (hflags : flags.Perm c.featureFlags.entries) (hother : other.Perm c.featureFlags.entries) :
    (defaultsOf flags c.switches.entries).get? (Text.key key) =
      (defaultsOf other c.switches.entries).get? (Text.key key) := by
  rw [get?_defaultsOf, get?_defaultsOf]
  rcases h with hswitch | hsame
  · obtain ⟨on, hon⟩ := Option.isSome_iff_exists.1 hswitch
    rw [hon]
    rfl
  · congr 1
    have hvalue : ∀ {flags : List (String × Bool)}, flags.Perm c.featureFlags.entries → ∀ on,
        (Dict.ofList (normalized flags)).get? (Text.key key) = some on ↔
          ∃ flag ∈ c.featureFlags.entries, Text.key flag.1 = Text.key key ∧ flag.2 = on := by
      intro flags hperm on
      simp only [← hperm.mem_iff] at hsame ⊢
      exact get?_normalized_iff hsame
    exact Option.ext fun on => (hvalue hflags on).trans (hvalue hother on).symm

theorem exists_seed (hswitches : ∀ key ∈ c.switches.keys, key ∈ switchable)
    (hcurrent : ∀ key ∈ c.featureFlags.keys, isCurrent key = true)
    (hopen : c.switches.get? (Text.key key) = none) {flag : String × Bool}
    (hflag : flag ∈ c.featureFlags.entries) (hkey : Text.key flag.1 = Text.key key) :
    ∃ g, c.Seeds (.ok g) ∧ g.isEnabled .empty key = .ok flag.2 := by
  have hperm : (c.featureFlags.entries.erase flag ++ [flag]).Perm c.featureFlags.entries :=
    (List.perm_append_singleton _ _).trans (List.perm_cons_erase hflag).symm
  refine ⟨_, (seeds_ok_iff hswitches).2 ⟨hcurrent, _, hperm, rfl⟩, ?_⟩
  rw [Gate.isEnabled, enabled_of_unchanged rfl, Gate.defaultFor, get?_defaultsOf, hopen, ← hkey,
    get?_normalized_concat]
  rfl

/-- Whether there is a gate does not depend on the order of the flags, and what it answers for a key
does not exactly if that is settled. -/
theorem seeds_alike_iff (hswitches : ∀ key ∈ c.switches.keys, key ∈ switchable) :
    c.Seeds (Gate.layered c.featureDefaults.entries) ∧
      (∀ r, c.Seeds r →
        ((∃ g, r = .ok g) ↔ ∀ key ∈ c.featureFlags.keys, isCurrent key = true)) ∧
      ((∀ key ∈ c.featureFlags.keys, isCurrent key = true) → ∀ key,
        (∀ g g', c.Seeds (.ok g) → c.Seeds (.ok g') →
          ∀ ctx chain, g.enabled ctx key chain = g'.enabled ctx key chain) ↔ c.Settles key) := by
  refine ⟨seeds_featureDefaults c, ?_, fun hcurrent key => ⟨fun halike => ?_, ?_⟩⟩
  · rintro _ @⟨flags, defaults, hflags, hdefaults⟩
    simp only [layered_defaultsOf_eq_ok_iff hswitches hdefaults, exists_and_left, exists_eq, and_true]
    exact forall_flags_iff (P := fun key => isCurrent key = true) hflags
  · refine or_iff_not_imp_left.2 fun hopen flag hflag other hother hkey hkey' => ?_
    have hnone : c.switches.get? (Text.key key) = none := by simpa using hopen
    obtain ⟨g, hg, hon⟩ := exists_seed hswitches hcurrent hnone hflag hkey
    obtain ⟨g', hg', hon'⟩ := exists_seed hswitches hcurrent hnone hother hkey'
    exact Except.ok.inj (hon.symm.trans ((halike g g' hg hg' .empty none).trans hon'))
  · intro hsettles g g' hg hg' ctx chain
    obtain ⟨-, flags, hflags, rfl⟩ := (seeds_ok_iff hswitches).1 hg
    obtain ⟨-, other, hother, rfl⟩ := (seeds_ok_iff hswitches).1 hg'
    rw [enabled_of_unchanged rfl, enabled_of_unchanged rfl, Gate.defaultFor, Gate.defaultFor,
      get?_defaultsOf_of_settles hsettles hflags hother]

def settledFlags : Config :=
  { standard with
    featureFlags := .ofList [(" Search", true), ("search", true), ("DEBUG", true), ("debug", false)]
    switches := .ofList [("debug", true)] }

theorem seeds_alike_settled :
    (∀ key ∈ settledFlags.switches.keys, key ∈ switchable) ∧
      (∀ key ∈ settledFlags.featureFlags.keys, isCurrent key = true) ∧
      (∃ g, Gate.layered settledFlags.featureDefaults.entries = .ok g) ∧
      ∀ key ∈ ["Search", "Debug"], ∀ g g', settledFlags.Seeds (.ok g) → settledFlags.Seeds (.ok g') →
        ∀ ctx chain, g.enabled ctx key chain = g'.enabled ctx key chain := by
  have hswitches : ∀ key ∈ settledFlags.switches.keys, key ∈ switchable := by decide
  have hcurrent : ∀ key ∈ settledFlags.featureFlags.keys, isCurrent key = true := by decide
  have hsettles : ∀ key ∈ ["Search", "Debug"], settledFlags.Settles key := by
    unfold Settles
    decide +kernel
  obtain ⟨hseeds, hsome, halike⟩ := seeds_alike_iff hswitches
  exact ⟨hswitches, hcurrent, (hsome _ hseeds).2 hcurrent,
    fun key hkey => (halike hcurrent key).2 (hsettles key hkey)⟩

def twoSpellings : Config :=
  { standard with featureFlags := .ofList [("Search", true), ("search", false)] }

/-- Which of two spellings is read last decides what the gate answers. -/
theorem search_by_order : ∃ g g', twoSpellings.Seeds (.ok g) ∧ twoSpellings.Seeds (.ok g') ∧
    g.isEnabled .empty "search" = .ok true ∧ g'.isEnabled .empty "search" = .ok false := by
  have hswitches : ∀ key ∈ twoSpellings.switches.keys, key ∈ switchable := by decide
  have hcurrent : ∀ key ∈ twoSpellings.featureFlags.keys, isCurrent key = true := by decide
  have hkey : Text.key "Search" = Text.key "search" := by decide
  have hfirst : ("Search", true) ∈ twoSpellings.featureFlags.entries := by decide
  have hsecond : ("search", false) ∈ twoSpellings.featureFlags.entries := by decide
  obtain ⟨g, hg, hon⟩ := exists_seed hswitches hcurrent rfl hfirst hkey
  obtain ⟨g', hg', hoff⟩ := exists_seed hswitches hcurrent rfl hsecond rfl
  exact ⟨g, g', hg, hg', hon, hoff⟩

end Config

end Backoffice
