import Backoffice.Proofs.Assignment.Lineage
import Backoffice.Proofs.Assignment.Retries

namespace Backoffice.Assignment

theorem Operation.text_injective {op op' : Operation} (h : op.text = op'.text) : op = op' := by
  revert h
  cases op <;> cases op' <;> simp [Operation.text]

structure TakenBy (user : String) (a : Assignment) : Prop where
  status : a.status = .inProgress
  assignee : a.assigneeId = some user

structure GivenBy (user : String) (named : Option String) (a : Assignment) : Prop where
  status : a.status = .assigned
  assignee : ∃ assignee, named.bind Text.nonBlank = some assignee ∧ a.assigneeId = some assignee
  assigner : a.assignerId = some user

namespace Queue

variable {q : Request} {s t : Store} {a : Assignment}

structure Fulfils (q : Request) (a : Assignment) : Prop where
  claim : q.op = .claim → TakenBy q.filled.actorId a
  assign : q.op = .assign → GivenBy q.filled.actorId q.action.assigneeId a

theorem Advances.fulfils {current : Assignment} (h : Advances q current a) : Fulfils q a := by
  obtain ⟨now, next, heffect, rfl⟩ := h.effect
  constructor
  case claim =>
    intro hop
    rw [hop] at heffect
    cases heffect with
    | takeUp => constructor <;> rfl
    | resume _ howner => exact ⟨rfl, howner⟩
  case assign =>
    intro hop
    rw [hop] at heffect
    cases heffect with
    | handOver _ hnamed => exact ⟨rfl, ⟨_, hnamed, rfl⟩, rfl⟩

theorem Allowed.success (h : Allowed (.ended q (.ok a)) s t) :
    (s.rows.get? q.action.id = some a ∧ Repeats q a) ∨ ∃ current, Advances q current a := by
  cases h with
  | repeated hstored hrepeats => exact .inl ⟨hstored, hrepeats⟩
  | advanced _ hadv => exact .inr ⟨_, hadv⟩

structure Inherits (ms : List (Moment Event Store)) (s : Store) (q writer : Request)
    (a : Assignment) : Prop where
  stored : s.rows.get? q.action.id = some a
  repeats : Repeats q a
  applied : ∃ m ∈ ms, Applies m writer a
  op : writer.op = q.op
  id : writer.action.id = q.action.id
  key : writer.action.key = q.action.key

theorem exists_writer {ms : List (Moment Event Store)} (hrun : warrant.Allows .empty ms s)
    (hstored : s.rows.get? q.action.id = some a) (hrepeats : Repeats q a) :
    ∃ writer, Inherits ms s q writer a ∧ Fulfils writer a := by
  have hlineage := lineage_of_run hrun filed_empty q.action.id .nil
  rw [hstored, List.nil_append] at hlineage
  generalize hwritten : written q.action.id ms = es at hlineage
  have hkey := hrepeats.key
  cases hlineage with
  | begun =>
    -- a creation carries no key
    have hkeyed := hrepeats.keyed
    rw [← hkey] at hkeyed
    cases hkeyed
  | @advanced es writer current _ _ hadv =>
    have hmem : .ended writer (.ok a) ∈ written q.action.id ms := by simp [hwritten]
    obtain ⟨m, hm, he⟩ := List.mem_map.1 hmem
    obtain ⟨hm, hchanged⟩ := List.mem_filter.1 hm
    have happlies : Applies m writer a := by
      refine ⟨he, fun hsame => ?_⟩
      simp [hsame] at hchanged
    obtain ⟨hfiled, -, hwarranted⟩ := hrun.moment filed_empty hm
    have hafter := (Allowed.keeps hfiled hwarranted.allowed).1
    have hleft := (happlies.stored hwarranted hfiled).1
    have hframe := hadv.frame
    have hkey' : a.lastKey = writer.action.key := by rw [hframe]
    have hop : a.lastOperation = writer.action.key.map fun _ => writer.op.text := by rw [hframe]
    refine ⟨writer, ⟨hstored, hrepeats, ⟨m, hm, happlies⟩, ?_, ?_, ?_⟩, hadv.fulfils⟩
    · obtain ⟨key, hsome⟩ := Option.isSome_iff_exists.1 hrepeats.keyed
      rw [← hkey', hkey, hsome, hrepeats.operation] at hop
      exact (Operation.text_injective (Option.some.inj hop)).symm
    · rw [← hafter _ _ hleft, (hrun.keeps filed_empty).1 _ _ hstored]
    · rw [← hkey', hkey]

/-- The answer of a claim or an assignment that succeeds: what it asks for, or what an earlier one asked
for with the same key. -/
structure Owned (ms : List (Moment Event Store)) (s : Store) (q : Request) (a : Assignment) :
    Prop where
  claim : q.op = .claim → TakenBy q.filled.actorId a ∨
    ∃ writer, Inherits ms s q writer a ∧ TakenBy writer.filled.actorId a
  assign : q.op = .assign → GivenBy q.filled.actorId q.action.assigneeId a ∨
    ∃ writer, Inherits ms s q writer a ∧ GivenBy writer.filled.actorId writer.action.assigneeId a

theorem Allowed.owned {ms : List (Moment Event Store)} (h : Allowed (.ended q (.ok a)) s t)
    (hrun : warrant.Allows .empty ms s) : Owned ms s q a := by
  rcases h.success with ⟨hstored, hrepeats⟩ | ⟨current, hadv⟩
  · obtain ⟨writer, hinherits, hfulfils⟩ := exists_writer hrun hstored hrepeats
    constructor
    case claim =>
      exact fun hop => .inr ⟨writer, hinherits, hfulfils.claim (hinherits.op.trans hop)⟩
    case assign =>
      exact fun hop => .inr ⟨writer, hinherits, hfulfils.assign (hinherits.op.trans hop)⟩
  · exact ⟨fun hop => .inl (hadv.fulfils.claim hop), fun hop => .inl (hadv.fulfils.assign hop)⟩

theorem success_owned (calls : List (Context × Command)) (supply : Supply) (turns : List Turn) :
    (∀ supply' ctx op action a,
      (execute ctx op action (supply', ((start calls supply).play turns).2.state)).1 = .ok a →
      Owned ((start calls supply).play turns).1 ((start calls supply).play turns).2.state
        ⟨ctx, op, action⟩ a) ∧
    ∀ earlier m later q a, ((start calls supply).play turns).1 = earlier ++ m :: later →
      m.event = .ended q (.ok a) → Owned earlier m.before q a := by
  have hrun := play_warranted calls supply turns
  constructor
  · intro supply' ctx op action a ha
    have hfiled := (hrun.keeps filed_empty).1
    have hallowed := execute_allowed ⟨ctx, op, action⟩ supply' hfiled
    rw [ha] at hallowed
    exact hallowed.owned hrun
  · intro earlier m later q a hms he
    rw [hms] at hrun
    have hm := (hrun.moment filed_empty (m := m) (by simp)).2.2.allowed
    rw [he] at hm
    obtain ⟨u, hearlier, rfl, -⟩ := hrun.append
    exact hm.owned hearlier

def keyed : List (Context × Command) :=
  let draft (id : String) : Draft :=
    ⟨some id, "g", "post" ++ id, "r", "en", "de", none, none, .normal, none, "ed"⟩
  [(.system, .create (draft "a")), (.system, .create (draft "b")),
    (.system, .single .claim ⟨"a", 1, "ann", none, none, some "k"⟩),
    (.system, .single .assign ⟨"b", 1, "eve", some "ann", none, some "k"⟩)]

/-- With the key that ann and eve used, bob is answered with what they have made. -/
theorem answered_with_anothers :
    let s := ((start keyed ⟨⟨0, 0⟩, 0⟩).play ([0, 1, 2, 2, 3, 3].map .call)).2.state
    (∃ a, (execute .system .claim ⟨"a", 1, "bob", none, none, some "k"⟩ (⟨⟨9, 0⟩, 9⟩, s)).1 = .ok a ∧
      a.assigneeId = some "ann") ∧
    ∃ a, (execute .system .assign ⟨"b", 1, "bob", some "carl", none, some "k"⟩
      (⟨⟨9, 0⟩, 9⟩, s)).1 = .ok a ∧ a.assigneeId = some "ann" ∧ a.assignerId = some "eve" := by
  intro s
  have hclaimed : (s.rows.get? "a").map (fun a => (a.lastKey, a.lastOperation, a.assigneeId)) =
      some (some "k", some "claim", some "ann") := by decide
  have hassigned : (s.rows.get? "b").map
      (fun a => (a.lastKey, a.lastOperation, a.assigneeId, a.assignerId)) =
        some (some "k", some "assign", some "ann", some "eve") := by decide
  obtain ⟨a, ha, hmarks⟩ := Option.map_eq_some_iff.1 hclaimed
  obtain ⟨b, hb, hmarks'⟩ := Option.map_eq_some_iff.1 hassigned
  simp only [Prod.mk.injEq] at hmarks hmarks'
  obtain ⟨hkey, hop, hassignee⟩ := hmarks
  obtain ⟨hkey', hop', hassignee', hassigner⟩ := hmarks'
  refine ⟨⟨a, ?_, hassignee⟩, b, ?_, hassignee', hassigner⟩
  · exact (execute_of_repeats (q := ⟨.system, .claim, ⟨"a", 1, "bob", none, none, some "k"⟩⟩) rfl
      rfl ha ⟨rfl, hkey, hop⟩ _).1
  · exact (execute_of_repeats
      (q := ⟨.system, .assign, ⟨"b", 1, "bob", some "carl", none, some "k"⟩⟩) rfl
      rfl hb ⟨rfl, hkey', hop'⟩ _).1

end Queue

end Backoffice.Assignment
