import Backoffice.Proofs.Assignment.Rows

namespace Backoffice.Assignment.Queue

def written (id : String) (ms : List (Moment Event Store)) : List Event :=
  (ms.filter fun m => m.before.rows.get? id ≠ m.after.rows.get? id).map (·.event)

theorem written_cons (id : String) (m : Moment Event Store) (ms : List (Moment Event Store)) :
    written id (m :: ms) =
      (if m.before.rows.get? id ≠ m.after.rows.get? id then [m.event] else []) ++ written id ms := by
  by_cases h : m.before.rows.get? id = m.after.rows.get? id <;> simp [written, h]

inductive Lineage : List Event → Option Assignment → Prop
  | nil : Lineage [] none
  | begun {ctx : Context} {d : Draft} {now : Instant} {fresh : String} :
      Lineage [.created ctx d (.ok (d.assignment (actor ctx d.actorId) now fresh))]
        (some (d.assignment (actor ctx d.actorId) now fresh))
  | advanced {es : List Event} {q : Request} {current row : Assignment} :
      Lineage es (some current) → Advances q current row →
      Lineage (es ++ [.ended q (.ok row)]) (some row)

theorem Advances.ne {q : Request} {current row : Assignment} (h : Advances q current row) :
    current ≠ row := by
  intro heq
  have hversion := h.version
  rw [← heq] at hversion
  omega

theorem Lineage.step {es : List Event} {e : Event} {row row' : Option Assignment}
    (h : Lineage es row) (hstep : RowStep e row row') :
    Lineage (es ++ if row ≠ row' then [e] else []) row' := by
  cases hstep with
  | same => simpa using h
  | begun he =>
    cases h
    subst he
    exact .begun
  | advanced he hvalid hadv =>
    subst he
    simpa [hadv.ne] using Lineage.advanced h hadv

theorem lineage_of_run {s t : Store} {ms : List (Moment Event Store)} {es : List Event}
    (hrun : warrant.Allows s ms t) (hs : Filed s) (id : String)
    (h : Lineage es (s.rows.get? id)) : Lineage (es ++ written id ms) (t.rows.get? id) := by
  induction ms generalizing s es with
  | nil =>
    cases hrun
    simpa [written] using h
  | cons m ms ih =>
    obtain ⟨rfl, hwarranted, hrest⟩ := hrun
    have hnext := ih hrest (Allowed.keeps hs hwarranted.allowed).1 (h.step (hwarranted.row hs id))
    rwa [List.append_assoc, ← written_cons] at hnext

theorem Lineage.version {es : List Event} {row : Option Assignment} (h : Lineage es row) :
    row.elim 0 (·.version) = es.length := by
  induction h with
  | nil => rfl
  | begun => rfl
  | advanced h hadv ih => simpa [hadv.version] using ih

theorem Lineage.length_pos {es : List Event} {a : Assignment} (h : Lineage es (some a)) :
    0 < es.length := by
  cases h <;> simp

theorem Lineage.last {es : List Event} {a : Assignment} (h : Lineage es (some a))
    (hpending : a.status ≠ .pending) (hassigned : a.status ≠ .assigned) :
    ∃ earlier q current, es = earlier ++ [.ended q (.ok a)] ∧ Lineage earlier (some current) ∧
      Advances q current a := by
  cases h with
  | begun =>
    -- a new row is pending or assigned
    exfalso
    simp only [Draft.assignment] at hpending hassigned
    split at hpending <;> simp_all
  | advanced h hadv => exact ⟨_, _, _, rfl, h, hadv⟩

theorem Lineage.entry {es : List Event} {b : Assignment} (h : Lineage es (some b))
    {op : Operation} {status : Status} (hb : b.status.entry = some (op, status)) :
    ∃ earlier q a, es = earlier ++ [.ended q (.ok b)] ∧ Lineage earlier (some a) ∧
      Advances q a b ∧ q.op = op ∧ a.status = status ∧ b.assigneeId = a.assigneeId := by
  obtain ⟨earlier, q, a, hes, hearlier, hadv⟩ : ∃ earlier q a,
      es = earlier ++ [.ended q (.ok b)] ∧ Lineage earlier (some a) ∧ Advances q a b := by
    apply h.last
    · intro hs
      simp [hs, Status.entry] at hb
    · intro hs
      simp [hs, Status.entry] at hb
  obtain ⟨now, next, heffect, hrow⟩ := hadv.effect
  subst hrow
  exact ⟨earlier, q, a, hes, hearlier, hadv, heffect.entry hb⟩

theorem Lineage.claimed {es : List Event} {b : Assignment} (h : Lineage es (some b))
    (hb : b.status = .inProgress) :
    ∃ earlier q a, es = earlier ++ [.ended q (.ok b)] ∧ Lineage earlier (some a) ∧
      q.op = .claim ∧ b.assigneeId = some q.filled.actorId := by
  obtain ⟨earlier, q, a, hes, hearlier, hadv⟩ := h.last (by simp [hb]) (by simp [hb])
  obtain ⟨now, next, heffect, hrow⟩ := hadv.effect
  subst hrow
  exact ⟨earlier, q, a, hes, hearlier, heffect.claimed hb⟩

theorem Advances.submitted {q : Request} {a b : Assignment} (h : Advances q a b)
    (hb : b.status = .review) : b.assigneeId = some q.filled.actorId := by
  obtain ⟨now, next, heffect, hrow⟩ := h.effect
  subst hrow
  exact heffect.submitted hb

/-- The last four writes are a claim by `u`, a submission by `u`, an approval and a publication that
stored `a`; from the claim on the row belongs to `u`. -/
inductive Reviewed (u : String) : List Event → Assignment → Prop
  | intro {earlier : List Event} {claim submit approve publish : Request} {a b c d : Assignment} :
      claim.op = .claim → submit.op = .submitReview → approve.op = .approve →
      publish.op = .publish → claim.filled.actorId = u → submit.filled.actorId = u →
      (∀ row ∈ [a, b, c, d], row.assigneeId = some u) →
      Reviewed u (earlier ++ [.ended claim (.ok a), .ended submit (.ok b), .ended approve (.ok c),
        .ended publish (.ok d)]) d

theorem Lineage.reviewed {es : List Event} {d : Assignment} (h : Lineage es (some d))
    (hd : d.status = .published) : ∃ u, Reviewed u es d ∧ 5 ≤ d.version := by
  have hversion := h.version
  -- each status fixes the write before it, from the publication back to the claim
  obtain ⟨_, publish, c, rfl, h, -, hpublish, hc, hdc⟩ := h.entry (by rw [hd]; rfl)
  obtain ⟨_, approve, b, rfl, h, -, happrove, hb, hcb⟩ := h.entry (by rw [hc]; rfl)
  obtain ⟨_, submit, a, rfl, h, hadv, hsubmit, ha, hba⟩ := h.entry (by rw [hb]; rfl)
  obtain ⟨earlier, claim, _, rfl, h, hclaim, hau⟩ := h.claimed ha
  have hbu := hadv.submitted hb
  refine ⟨claim.filled.actorId, ?_, ?_⟩
  · have hlist : ∀ x y z w : Event, earlier ++ [x] ++ [y] ++ [z] ++ [w] = earlier ++ [x, y, z, w] := by
      simp
    rw [hlist]
    refine .intro hclaim hsubmit happrove hpublish rfl ?_ ?_
    · rw [hba, hau] at hbu
      exact (Option.some.inj hbu).symm
    · simp [hdc, hcb, hba, hau]
  · have hpos := h.length_pos
    simp only [Option.elim_some, List.length_append, List.length_singleton] at hversion
    omega

theorem lineage_of_play (calls : List (Context × Command)) (supply : Supply) (turns : List Turn)
    (id : String) : Lineage (written id ((start calls supply).play turns).1)
      (((start calls supply).play turns).2.state.rows.get? id) :=
  lineage_of_run (play_warranted calls supply turns) filed_empty id .nil

theorem published_after_review (calls : List (Context × Command)) (supply : Supply)
    (turns : List Turn) {id : String} {a : Assignment}
    (ha : ((start calls supply).play turns).2.state.rows.get? id = some a)
    (hstatus : a.status = .published) :
    ∃ u, Reviewed u (written id ((start calls supply).play turns).1) a ∧ 5 ≤ a.version := by
  have hlineage := lineage_of_play calls supply turns id
  rw [ha] at hlineage
  exact hlineage.reviewed hstatus

def contested : List (Context × Command) :=
  let operate (op : Operation) (version : Nat) (actorId : String) : Context × Command :=
    (.system, .single op ⟨"a", version, actorId, none, none, none⟩)
  [(.system, .create ⟨some "a", "g", "post", "r", "en", "de", none, none, .normal, none, "ed"⟩),
    operate .claim 1 "ann", operate .claim 1 "bob", operate .submitReview 2 "ann",
    operate .reject 3 "eve", operate .claim 4 "ann", operate .submitReview 5 "ann",
    operate .approve 6 "eve", operate .publish 7 "eve"]

def contestedTurns : List Turn :=
  [0, 1, 2, 1, 2, 3, 3, 4, 4, 5, 5, 6, 6, 7, 7, 8, 8].map .call

theorem published_after_review_contested :
    let played := (start contested ⟨⟨0, 0⟩, 0⟩).play contestedTurns
    ∃ a, played.2.state.rows.get? "a" = some a ∧ a.status = .published ∧
      ∃ u, Reviewed u (written "a" played.1) a ∧ 5 ≤ a.version := by
  intro played
  have hstatus : (played.2.state.rows.get? "a").map (·.status) = some .published := by
    decide
  obtain ⟨a, ha, hpublished⟩ := Option.map_eq_some_iff.1 hstatus
  exact ⟨a, ha, hpublished, published_after_review _ _ _ ha hpublished⟩

end Backoffice.Assignment.Queue
