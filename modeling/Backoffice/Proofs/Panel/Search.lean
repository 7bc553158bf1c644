import Backoffice.Proofs.Panel.Moves
import Backoffice.Proofs.Repository.Pages
import Backoffice.Proofs.Text.Key

namespace Backoffice

open Call (Ensures ensures_asks ensures_ofExcept ensures_pure ensures_state)

/-- The repositories are what calls have made of new ones. -/
structure Services.Grown (s : Services) : Prop where
  tables : ∀ handle r, s.tables.get? handle = some r → r.Grown
  partitions : ∀ id r, s.content.partitions.get? id = some r → r.Grown

namespace Panel

variable {p : Panel} {ctx : Context} {query : String} {s t : Services} {limit : Nat}

namespace Source

def stored (source : Source) (s : Services) : Dict Record :=
  match source with
  | .table handle => (s.table handle).records
  | .content c => s.content.recordsOf c.id

theorem stored_of_reads (source : Source) (h : s.Reads t) : source.stored t = source.stored s := by
  cases source with
  | table handle =>
    rw [h.rest]
    rfl
  | content c => exact h.content.records c.id

theorem keyed_of_grown (hs : s.Grown) (source : Source) : Repository.Keyed (source.stored s) := by
  cases source with
  | table handle =>
    change Repository.Keyed (s.table handle).records
    unfold Services.table
    cases hr : s.tables.get? handle with
    | none => exact Repository.keyed_empty
    | some r => exact (hs.tables handle r hr).kept.keyed
  | content c =>
    change Repository.Keyed (s.content.recordsOf c.id)
    unfold ContentRecords.recordsOf
    cases hr : s.content.partitions.get? c.id with
    | none => exact Repository.keyed_empty
    | some r => exact (hs.partitions c.id r hr).kept.keyed

theorem ensures_list (ctx : Context) (o : ListOptions) (source : Source) (s : Services) :
    (source.list ctx o).Ensures s fun result t => s.Reads t ∧
      ∃ r : Repository, r.records = source.stored s ∧ result = r.list ctx o := by
  have hleaves := Source.leaves_list ctx o source s
  have hlist : (source.list ctx o).Ensures s fun result _ =>
      ∃ r : Repository, r.records = source.stored s ∧ result = r.list ctx o := by
    cases source with
    | table handle =>
      exact ensures_asks (fun _ h => ⟨_, rfl, h.symm⟩) fun _ h => ⟨_, rfl, h.symm⟩
    | content c =>
      unfold Source.list Services.onContent ContentRecords.list
      refine Ensures.within ((ensures_partition_records c s.content).bind ?_ ?_)
      · rintro r t ⟨-, _, ⟨⟩, hr⟩
        exact ensures_ofExcept (fun _ h => ⟨r, hr, h.symm⟩) fun _ h => ⟨r, hr, h.symm⟩
      · rintro e t ⟨-, _, ⟨⟩, -⟩
  exact fun supply => ⟨hleaves supply, hlist supply⟩

end Source

def finds (p : Panel) (ctx : Context) (query : String) (record : Record) : Bool :=
  Repository.matchesSearch (Text.key query) record &&
    (!(p.localized && ctx.locale != "") ||
      Repository.matchesFilter record "locale" (.str ctx.locale))

def searchOptions (query : String) (limit : Nat) : ListOptions :=
  { ListOptions.all with search := query, perPage := limit }

theorem listOptions_search (hquery : Text.blank query = false) (p : Panel) (ctx : Context)
    (limit : Nat) :
    p.listOptions ctx (searchOptions query limit) =
      { searchOptions query limit with
        filters := (Repository.searchKey, .str (Text.trim query)) ::
          if p.localized && ctx.locale != "" then [("locale", .str ctx.locale)] else [] } := by
  have hlt : Repository.searchKey < "locale" := by decide
  have hne : "locale" ≠ Repository.searchKey := by decide
  unfold listOptions searchOptions ListOptions.all
  cases p.localized && ctx.locale != "" with
  | true => simp [hquery, Entries.get?, Entries.set, hlt, hne]
  | false => simp [hquery, Entries.get?, Entries.set]

theorem selected_search (hquery : Text.blank query = false) (p : Panel) (ctx : Context)
    (limit : Nat) (r : Repository) :
    r.selected (p.listOptions ctx (searchOptions query limit)) =
      r.records.values.filter (p.finds ctx query) := by
  have hkey : Text.key (Text.trim query) = Text.key query := by
    rw [Text.key, Text.trim_trim, Text.key]
  have hkeyed : (Text.key query == "") = false := beq_eq_false_iff_ne.2 (Text.key_ne_empty hquery)
  have hne : "locale" ≠ Repository.searchKey := by decide
  rw [listOptions_search hquery]
  unfold Repository.selected Repository.needle
  refine List.filter_congr fun record _ => ?_
  cases hlocale : p.localized && ctx.locale != "" with
  | true => simp [finds, Entries.get?, hkey, hkeyed, hlocale, hne]
  | false => simp [finds, Entries.get?, hkey, hkeyed, hlocale]

theorem list_search (hactive : ctx.cancelled = false) (hquery : Text.blank query = false)
    (hpositive : 0 < limit) (p : Panel) (r : Repository) :
    ∃ total, r.list ctx (p.listOptions ctx (searchOptions query limit)) =
      .ok ⟨(r.records.values.filter (p.finds ctx query)).take limit, total⟩ := by
  have hselected := selected_search hquery p ctx limit r
  rw [listOptions_search hquery] at hselected ⊢
  refine ⟨(r.records.values.filter (p.finds ctx query)).length, ?_⟩
  rw [Repository.list_of_active hactive, Repository.sorted_eq_selected rfl, hselected]
  simp [searchOptions, ListOptions.all, ListOptions.pageSize, hpositive.ne']

namespace Adapter

def hits (a : Adapter) (ctx : Context) (query : String) (s : Services) : List SearchHit :=
  ((a.panel.source.stored s).entries.filter fun e => a.panel.finds ctx query e.2).map fun e =>
    ⟨a.panel.name, e.1, (e.2.textField? a.titleField).getD e.1⟩

theorem filterMap_hit? (a : Adapter) {records : Dict Record} (hkeyed : Repository.Keyed records)
    (f : Record → Bool) (limit : Nat) :
    ((records.values.filter f).take limit).filterMap a.hit? =
      ((records.entries.filter fun e => f e.2).map fun e =>
        ⟨a.panel.name, e.1, (e.2.textField? a.titleField).getD e.1⟩).take limit := by
  have hhit : ∀ e ∈ (records.entries.filter fun e => f e.2).take limit, a.hit? e.2 =
      some ⟨a.panel.name, e.1, (e.2.textField? a.titleField).getD e.1⟩ := by
    intro e he
    have hmem : e ∈ records.entries := List.mem_of_mem_filter (List.mem_of_mem_take he)
    rw [hit?, hkeyed e.1 e.2 ((Entries.get?_eq_some_iff records.sorted).2 hmem)]
    rfl
  rw [Dict.values, List.filter_map, ← List.map_take, ← List.map_take, List.filterMap_map,
    ← List.filterMap_eq_map]
  exact List.filterMap_congr hhit

theorem ensures_search (a : Adapter) (hactive : ctx.cancelled = false)
    (hquery : Text.blank query = false) (hview : a.panel.canView ctx = true)
    (hkeyed : Repository.Keyed (a.panel.source.stored s)) (hpositive : 0 < limit)
    (hlimit : limit ≤ largestPage) :
    (a.search ctx query limit).Ensures s fun result t =>
      result = .ok ((a.hits ctx query s).take limit) ∧ s.Reads t := by
  have hauthorized : a.panel.authorize ctx a.panel.permissions.view = .ok () := allows_iff.1 hview
  have hsize : max 1 (min limit largestPage) = limit := by omega
  have hpage : (a.panel.list ctx (searchOptions query limit)).Ensures s fun result t =>
      (∃ total, result = .ok
        ⟨((a.panel.source.stored s).values.filter (a.panel.finds ctx query)).take limit, total⟩) ∧
      s.Reads t := by
    unfold Panel.list
    rw [hauthorized]
    refine (Source.ensures_list ctx _ a.panel.source s).imp ?_
    rintro _ t ⟨hreads, r, hr, rfl⟩
    rw [← hr]
    exact ⟨list_search hactive hquery hpositive a.panel r, hreads⟩
  unfold search
  rw [hsize]
  refine hpage.bind ?_ ?_
  · rintro _ t ⟨⟨_, ⟨⟩⟩, hreads⟩
    exact ensures_pure ⟨congrArg _ (a.filterMap_hit? hkeyed (a.panel.finds ctx query) limit), hreads⟩
  · rintro e t ⟨⟨_, ⟨⟩⟩, -⟩

theorem hits_of_reads (a : Adapter) (h : s.Reads t) : a.hits ctx query t = a.hits ctx query s := by
  rw [hits, hits, Source.stored_of_reads a.panel.source h]

theorem hits_trim (a : Adapter) : a.hits ctx (Text.trim query) s = a.hits ctx query s := by
  unfold hits finds
  rw [Text.key, Text.trim_trim, Text.key]

end Adapter

namespace Registry

def hitsOf (ctx : Context) (query : String) (s : Services) (adapters : List (String × Adapter)) :
    List SearchHit :=
  (adapters.filter fun e => e.2.panel.canView ctx).flatMap fun e => e.2.hits ctx query s

def hits (r : Registry) (ctx : Context) (query : String) (s : Services) : List SearchHit :=
  hitsOf ctx query s r.adapters.entries

/-- Every adapter searches the panel that is registered under its name. -/
def Adapted (r : Registry) : Prop :=
  ∀ name a, r.adapters.get? name = some a → r.get? name = some a.panel

variable {r : Registry} {adapters : List (String × Adapter)}

theorem hitsOf_of_reads (h : s.Reads t) : hitsOf ctx query t adapters = hitsOf ctx query s adapters :=
  List.flatMap_congr fun e _ => e.2.hits_of_reads h

theorem hitsOf_trim : hitsOf ctx (Text.trim query) s adapters = hitsOf ctx query s adapters :=
  List.flatMap_congr fun e _ => e.2.hits_trim

theorem Adapted.shows (hr : r.Adapted) : ∀ e ∈ r.adapters.entries,
    r.shows ctx e.1 = e.2.panel.canView ctx := by
  intro e he
  have hget : r.get? e.1 = some e.2.panel :=
    hr e.1 e.2 ((Entries.get?_eq_some_iff r.adapters.sorted).2 he)
  rw [Registry.shows, hget]

theorem ensures_searchIn (hactive : ctx.cancelled = false) (hquery : Text.blank query = false)
    (hshows : ∀ e ∈ adapters, r.shows ctx e.1 = e.2.panel.canView ctx)
    (hkeyed : ∀ source : Source, Repository.Keyed (source.stored s)) (hpositive : 0 < limit)
    (hlimit : limit ≤ Adapter.largestPage) :
    (r.searchIn ctx query limit adapters).Ensures s fun result t =>
      result = .ok ((hitsOf ctx query s adapters).take limit) ∧ s.Reads t := by
  induction adapters generalizing limit s with
  | nil => exact ensures_pure ⟨by simp [hitsOf], .refl s⟩
  | cons e rest ih =>
    obtain ⟨name, a⟩ := e
    have hrest : ∀ e ∈ rest, r.shows ctx e.1 = e.2.panel.canView ctx := fun e he =>
      hshows e (List.mem_cons_of_mem _ he)
    unfold searchIn
    rw [Context.ensureActive_eq_ok.2 hactive, hshows _ List.mem_cons_self]
    cases hview : a.panel.canView ctx with
    | false =>
      have hskip : hitsOf ctx query s ((name, a) :: rest) = hitsOf ctx query s rest := by
        simp [hitsOf, hview]
      rw [hskip]
      exact ih hrest hkeyed hpositive hlimit
    | true =>
      have hcons : hitsOf ctx query s ((name, a) :: rest) =
          a.hits ctx query s ++ hitsOf ctx query s rest := by
        simp [hitsOf, hview]
      rw [hcons]
      refine (a.ensures_search hactive hquery hview (hkeyed _) hpositive hlimit).bind ?_ ?_
      · rintro _ t ⟨⟨⟩, hreads⟩
        have hkeyed' : ∀ source : Source, Repository.Keyed (source.stored t) := by
          intro source
          rw [source.stored_of_reads hreads]
          exact hkeyed source
        split
        · rename_i hfull
          have hlength : limit ≤ (a.hits ctx query s).length := by simpa using hfull
          refine ensures_pure ⟨?_, hreads⟩
          rw [List.take_take, Nat.min_self, List.take_append_of_le_length hlength]
        · rename_i hfull
          have hlength : (a.hits ctx query s).length < limit := by simpa using hfull
          rw [List.take_of_length_le hlength.le]
          refine (ih hrest hkeyed' (Nat.sub_pos_of_lt hlength) (by omega)).bind ?_ ?_
          · rintro _ u ⟨⟨⟩, hreads'⟩
            refine ensures_pure ⟨?_, hreads.trans hreads'⟩
            rw [hitsOf_of_reads hreads, List.take_append, List.take_of_length_le hlength.le]
          · rintro e u ⟨⟨⟩, -⟩
      · rintro e t ⟨⟨⟩, -⟩

theorem ensures_search (hr : r.Adapted) (hs : s.Grown) (hactive : ctx.cancelled = false)
    (hquery : Text.blank query = false) (hlimit : limit ≤ Adapter.largestPage) :
    (r.search ctx query limit).Ensures s fun result t =>
      result = .ok ((r.hits ctx query s).take limit) ∧ s.Reads t := by
  unfold Registry.search
  rw [hquery, Bool.false_or]
  split
  · rename_i hzero
    refine ensures_pure ⟨?_, .refl s⟩
    rw [beq_iff_eq.1 hzero, List.take_zero]
  · rename_i hzero
    have hpositive : 0 < limit := Nat.pos_of_ne_zero fun h => hzero (beq_iff_eq.2 h)
    rw [hits, ← hitsOf_trim]
    exact ensures_searchIn hactive (by rwa [Text.blank_trim]) hr.shows
      (fun source => source.keyed_of_grown hs) hpositive hlimit

def gather (r : Registry) (ctx : Context) (query : String) (limit : Nat) :
    List SearchHit → List (String × Adapter) → Call Services (Option (List SearchHit))
  | found, [] => pure (some found)
  | found, (name, a) :: rest => do
    Call.ofExcept ctx.ensureActive
    if r.shows ctx name then
      if limit < found.length then pure none
      else
        let hits ← a.search ctx query (limit - found.length)
        if limit ≤ (found ++ hits).length then pure (some ((found ++ hits).take limit))
        else r.gather ctx query limit (found ++ hits) rest
    else r.gather ctx query limit found rest

def gatherAll (r : Registry) (ctx : Context) (query : String) (limit : Nat) :
    Call Services (Option (List SearchHit)) :=
  if Text.blank query || limit == 0 then pure (some [])
  else r.gather ctx (Text.trim query) limit [] r.adapters.entries

theorem gather_eq {found : List SearchHit} (h : found.length < limit) :
    r.gather ctx query limit found adapters =
      (fun hits => some (found ++ hits)) <$> r.searchIn ctx query (limit - found.length) adapters := by
  induction adapters generalizing found with
  | nil => simp [gather, searchIn]
  | cons e rest ih =>
    obtain ⟨name, a⟩ := e
    unfold gather searchIn
    rw [map_bind]
    refine bind_congr fun _ => ?_
    split
    · rw [if_neg h.not_gt, map_bind]
      refine bind_congr fun hits => ?_
      have hlength : limit ≤ (found ++ hits).length ↔ limit - found.length ≤ hits.length := by
        rw [List.length_append]
        omega
      by_cases hfull : limit - found.length ≤ hits.length
      · rw [if_pos hfull, if_pos (hlength.2 hfull), map_pure, List.take_append,
          List.take_of_length_le h.le]
      · rw [if_neg hfull, if_neg (mt hlength.1 hfull), ih (by rw [List.length_append]; omega),
          List.length_append, Nat.sub_add_eq, map_bind]
        simp
    · exact ih h

theorem gatherAll_eq (r : Registry) (ctx : Context) (query : String) (limit : Nat) :
    r.gatherAll ctx query limit = some <$> r.search ctx query limit := by
  unfold gatherAll Registry.search
  split
  · rfl
  · rename_i hnone
    have hpositive : 0 < limit := by
      refine Nat.pos_of_ne_zero fun h => hnone ?_
      simp [h]
    exact gather_eq hpositive

/-- A search finds the first of all hits: for fewer the first of those for more, and never more than
were asked for. What is still missing is never negative. -/
theorem search_hits (hr : r.Adapted) (hs : s.Grown) (hactive : ctx.cancelled = false)
    (hquery : Text.blank query = false) :
    (∀ n ≤ Adapter.largestPage, (r.search ctx query n).Ensures s fun result t =>
      result = .ok ((r.hits ctx query s).take n) ∧ s.Reads t) ∧
    (∀ m n, m ≤ n → n ≤ Adapter.largestPage → ∀ supply, ∃ fewer more,
      (r.search ctx query m (supply, s)).1 = .ok fewer ∧
        (r.search ctx query n (supply, s)).1 = .ok more ∧ fewer <+: more ∧ more.length ≤ n) ∧
    ∀ n, r.gatherAll ctx query n = some <$> r.search ctx query n := by
  have hsearch : ∀ n ≤ Adapter.largestPage, (r.search ctx query n).Ensures s fun result t =>
      result = .ok ((r.hits ctx query s).take n) ∧ s.Reads t :=
    fun n hn => ensures_search hr hs hactive hquery hn
  refine ⟨hsearch, fun m n hmn hn supply => ?_, r.gatherAll_eq ctx query⟩
  refine ⟨_, _, (hsearch m (hmn.trans hn) supply).1, (hsearch n hn supply).1, ?_, ?_⟩
  · exact List.take_prefix_take_left hmn
  · exact List.length_take_le n _

def shelf (name : String) (authorizer : Authorizer) : Panel :=
  ⟨name, name, .table name, .empty, [], [], .ofBase ("admin." ++ name), none, false, none, [], false,
    false, false, false, authorizer, .none, false⟩

def library : Registry where
  panels := .ofList [("books", shelf "books" .allowAll), ("films", shelf "films" .allowAll),
    ("vault", shelf "vault" .denyAll)]
  adapters := .ofList [("books", ⟨shelf "books" .allowAll, "title"⟩),
    ("films", ⟨shelf "films" .allowAll, "name"⟩), ("vault", ⟨shelf "vault" .denyAll, "title"⟩)]
  attachments := .empty
  dropsItems := false

def titled (id title : String) : Record := [("id", .str id), ("title", .str title)]

def titles (name : String) (records : List (String × Record)) : Repository :=
  ⟨name, .ofList records, 25⟩

def shelves : Services where
  toStores := { Stores.empty with
    tables := .ofList [
      ("books", titles "books" [("1", titled "1" "Ship of Fools"), ("2", titled "2" "Emma")]),
      ("films", titles "films" [("1", titled "1" "The Ship"), ("2", titled "2" "Shipwrecked")]),
      ("vault", titles "vault" [("1", titled "1" "Warship")])] }
  bus := .empty

theorem adapted_library : library.Adapted := by
  intro name a h
  have hmem : (name, a) ∈ [("books", (⟨shelf "books" .allowAll, "title"⟩ : Adapter)),
      ("films", ⟨shelf "films" .allowAll, "name"⟩), ("vault", ⟨shelf "vault" .denyAll, "title"⟩)] :=
    (Entries.get?_eq_some_iff library.adapters.sorted).1 h
  simp only [List.mem_cons, List.not_mem_nil, or_false, Prod.mk.injEq] at hmem
  rcases hmem with ⟨rfl, rfl⟩ | ⟨rfl, rfl⟩ | ⟨rfl, rfl⟩ <;> rfl

theorem grown_shelves : shelves.Grown := by
  have hone : ∀ name title, (titles name [("1", titled "1" title)]).Grown := fun name title =>
    @Repository.Grown.create _ _ .empty "" (titled "1" title) _ (.new name) rfl
  have htwo : ∀ name title title',
      (titles name [("1", titled "1" title), ("2", titled "2" title')]).Grown :=
    fun name title title' =>
      @Repository.Grown.create _ _ .empty "" (titled "2" title') _ (hone name title) rfl
  refine ⟨fun handle r h => ?_, fun id r h => by cases h⟩
  have hmem : r ∈ [titles "books" [("1", titled "1" "Ship of Fools"), ("2", titled "2" "Emma")],
      titles "films" [("1", titled "1" "The Ship"), ("2", titled "2" "Shipwrecked")],
      titles "vault" [("1", titled "1" "Warship")]] :=
    (Dict.mem_values_iff shelves.tables r).2 ⟨handle, h⟩
  simp only [List.mem_cons, List.not_mem_nil, or_false] at hmem
  rcases hmem with rfl | rfl | rfl
  · exact htwo _ _ _
  · exact htwo _ _ _
  · exact hone _ _

theorem hits_library : library.hits .empty " Ship " shelves =
    [⟨"books", "1", "Ship of Fools"⟩, ⟨"films", "1", "1"⟩, ⟨"films", "2", "2"⟩] := by
  decide

/-- The vault stays closed, and two hits are the first two of three. -/
theorem search_hits_library :
    library.Adapted ∧ shelves.Grown ∧ Context.empty.cancelled = false ∧
      Text.blank " Ship " = false ∧
      ((library.search .empty " Ship " 2).Ensures shelves fun result t =>
        result = .ok [⟨"books", "1", "Ship of Fools"⟩, ⟨"films", "1", "1"⟩] ∧ shelves.Reads t) ∧
      library.hits .empty " Ship " shelves =
        [⟨"books", "1", "Ship of Fools"⟩, ⟨"films", "1", "1"⟩, ⟨"films", "2", "2"⟩] := by
  have hquery : Text.blank " Ship " = false := by decide
  have hsearch := (@search_hits .empty " Ship " _ _ adapted_library grown_shelves rfl hquery).1 2
    (by decide)
  rw [hits_library] at hsearch
  exact ⟨adapted_library, grown_shelves, rfl, hquery, hsearch, hits_library⟩

end Registry

end Panel

end Backoffice
