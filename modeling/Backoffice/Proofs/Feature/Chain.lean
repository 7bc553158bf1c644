import Backoffice.Feature.Scope
import Mathlib.Data.List.Induction
import Mathlib.Data.List.TakeWhile

namespace Backoffice.Feature

def ScopeKind.all : List ScopeKind := [user, org, tenant, system]

namespace Chain

def ofScopes (scopes : List Scope) : Chain := scopes.foldl insert []

/-- The scopes of a request: those of its actor that have an id, and the system. -/
def scopesOf (ctx : Context) : List Scope :=
  let named (kind : ScopeKind) (id : String) : List Scope := if id == "" then [] else [⟨kind, id⟩]
  (ctx.actor.toList.flatMap fun a =>
    named .user a.id ++ named .org (a.orgId.getD "") ++ named .tenant (a.tenantId.getD "")) ++
      [Scope.system]

def arranged (scopes : List Scope) : Chain :=
  ScopeKind.all.flatMap fun kind => scopes.eraseDups.filter (·.kind == kind)

def Ordered (chain : Chain) : Prop := chain.Pairwise fun s t => s.kind.rank ≤ t.kind.rank

variable {chain : Chain} {scope : Scope}

theorem Ordered.lt_of_mem_dropWhile (h : Ordered chain) {n : Nat} {t : Scope}
    (ht : t ∈ chain.dropWhile fun s => s.kind.rank ≤ n) : n < t.kind.rank := by
  induction chain with
  | nil => cases ht
  | cons s rest ih =>
    obtain ⟨hhead, hrest⟩ := List.pairwise_cons.1 h
    by_cases hs : s.kind.rank ≤ n
    · rw [List.dropWhile_cons_of_pos (by simpa using hs)] at ht
      exact ih hrest ht
    · rw [List.dropWhile_cons_of_neg (by simpa using hs)] at ht
      rcases List.mem_cons.1 ht with rfl | ht
      · exact Nat.lt_of_not_le hs
      · exact Nat.lt_of_lt_of_le (Nat.lt_of_not_le hs) (hhead t ht)

theorem Ordered.insert (h : Ordered chain) (scope : Scope) : Ordered (chain.insert scope) := by
  unfold Chain.insert
  split
  · exact h
  · have hsplit : chain.takeWhile (fun s => s.kind.rank ≤ scope.kind.rank) ++
        chain.dropWhile (fun s => s.kind.rank ≤ scope.kind.rank) = chain :=
      List.takeWhile_append_dropWhile
    rw [← hsplit] at h
    obtain ⟨htake, hdrop, hcross⟩ := List.pairwise_append.1 h
    rw [hsplit] at h
    refine List.pairwise_append.2 ⟨htake, List.pairwise_cons.2 ⟨?_, hdrop⟩, ?_⟩
    · exact fun t ht => (h.lt_of_mem_dropWhile ht).le
    · intro s hs t ht
      rcases List.mem_cons.1 ht with rfl | ht
      · simpa using List.mem_takeWhile_imp hs
      · exact hcross s hs t ht

theorem Ordered.filter_insert (h : Ordered chain) (hnew : scope ∉ chain) (kind : ScopeKind) :
    (chain.insert scope).filter (·.kind == kind) =
      chain.filter (·.kind == kind) ++ [scope].filter (·.kind == kind) := by
  have hlater : (chain.dropWhile fun s => s.kind.rank ≤ scope.kind.rank).filter
      (·.kind == scope.kind) = [] := by
    rw [List.filter_eq_nil_iff]
    intro t ht hkind
    exact (h.lt_of_mem_dropWhile ht).ne (congrArg ScopeKind.rank (beq_iff_eq.1 hkind)).symm
  have hsplit : chain.filter (·.kind == kind) =
      (chain.takeWhile fun s => s.kind.rank ≤ scope.kind.rank).filter (·.kind == kind) ++
        (chain.dropWhile fun s => s.kind.rank ≤ scope.kind.rank).filter (·.kind == kind) := by
    rw [← List.filter_append, List.takeWhile_append_dropWhile]
  rw [Chain.insert, if_neg (by simpa using hnew), List.filter_append, List.filter_cons, hsplit]
  by_cases hkind : scope.kind = kind
  · subst hkind
    simp [hlater]
  · simp [hkind]

theorem Ordered.eq_flatMap (h : Ordered chain) :
    chain = ScopeKind.all.flatMap fun kind => chain.filter (·.kind == kind) := by
  induction chain with
  | nil => rfl
  | cons s rest ih =>
    obtain ⟨hhead, hrest⟩ := List.pairwise_cons.1 h
    have hnone : ∀ kind : ScopeKind, kind.rank < s.kind.rank →
        rest.filter (·.kind == kind) = [] := by
      intro kind hlt
      rw [List.filter_eq_nil_iff]
      rintro t ht hkind
      obtain rfl := beq_iff_eq.1 hkind
      exact absurd (hhead t ht) hlt.not_ge
    conv_lhs => rw [ih hrest]
    cases hs : s.kind with
    | user => simp [ScopeKind.all, hs]
    | org => simp [ScopeKind.all, hs, hnone .user (hs ▸ by decide)]
    | tenant =>
      simp [ScopeKind.all, hs, hnone .user (hs ▸ by decide), hnone .org (hs ▸ by decide)]
    | system =>
      simp [ScopeKind.all, hs, hnone .user (hs ▸ by decide), hnone .org (hs ▸ by decide),
        hnone .tenant (hs ▸ by decide)]

theorem ofScopes_concat (scopes : List Scope) (scope : Scope) :
    ofScopes (scopes ++ [scope]) = (ofScopes scopes).insert scope := by
  simp [ofScopes, List.foldl_append]

theorem arranged_by_insertion (scopes : List Scope) : Ordered (ofScopes scopes) ∧
    ∀ kind, (ofScopes scopes).filter (·.kind == kind) =
      scopes.eraseDups.filter (·.kind == kind) := by
  induction scopes using List.reverseRecOn with
  | nil => exact ⟨.nil, fun _ => rfl⟩
  | append_singleton scopes scope ih =>
    obtain ⟨hordered, hkinds⟩ := ih
    rw [ofScopes_concat]
    refine ⟨hordered.insert scope, fun kind => ?_⟩
    have hmem : scope ∈ ofScopes scopes ↔ scope ∈ scopes := by
      simpa using congrArg (scope ∈ ·) (hkinds scope.kind)
    rw [List.eraseDups_append]
    by_cases hscope : scope ∈ scopes
    · simp [Chain.insert, hmem.2 hscope, hkinds, List.removeAll, hscope]
    · rw [hordered.filter_insert (fun h => hscope (hmem.1 h)), hkinds, List.filter_append]
      simp [List.removeAll, hscope, List.eraseDups_cons]

theorem ofScopes_eq (scopes : List Scope) : ofScopes scopes = arranged scopes := by
  obtain ⟨hordered, hkinds⟩ := arranged_by_insertion scopes
  rw [hordered.eq_flatMap, arranged]
  simp only [hkinds]

theorem ofContext_eq (ctx : Context) : ofContext ctx = ofScopes (scopesOf ctx) := by
  unfold ofContext scopesOf ofScopes
  cases ctx.actor with
  | none => rfl
  | some a => simp only [Option.toList_some, List.flatMap_cons, List.flatMap_nil, List.append_nil]

theorem mem_ofScopes {scopes : List Scope} : scope ∈ ofScopes scopes ↔ scope ∈ scopes := by
  have hkinds := (arranged_by_insertion scopes).2 scope.kind
  simpa using congrArg (scope ∈ ·) hkinds

end Chain

end Backoffice.Feature
