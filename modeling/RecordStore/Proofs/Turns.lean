import RecordStore.Proofs.Appearance

/-! Stores, queries and console lines that take turns and may share their caches. However they do,
asking a cache is parsing the text: entries come and stay, one for each text, and nothing that can
be seen of a session or its files depends on the entries that were there before. -/
namespace RecordStore

open World
open RecordStore.Action (Alike)

/-- Stores, each with the query that is open on it, and queries on lists of records. -/
structure Session where
  stores : List (Query Store)
  lists : List (Query (List Json))

/-- What can be done in a session; stores and lists are told by their places. -/
inductive Turn where
  | openStore (path : String) (settings : Settings) (cache : CacheId)
  | openList (records : List Json) (cache : CacheId)
  /-- Opens a query on a store; it need not ask the cache that the store asks. -/
  | openQuery (place : Nat) (cache : CacheId)
  | operate (place : Nat) (operation : Store.Operation)
  | reload (place : Nat)
  | line (place : Nat) (format : Console.Format) (text : String)
  | step (place : Nat) (inner : Query.Step)
  | parse (cache : CacheId) (raw : String)

inductive Report where
  /-- There is nothing at the place. -/
  | absent
  | opened
  | operated (reply : Store.Reply)
  | reloaded
  | printed (output : Console.Output) (ending : Console.Ending)
  | stepped (reply : Query.Reply)
  | parsed (condition : Option Condition)

namespace Session

def start : Session := ⟨[], []⟩

/-- Does something with the query at a place. -/
def use {R : Type} (queries : List (Query R)) (place : Nat)
    (act : Query R → Action (Report × Query R)) : Action (Report × List (Query R)) :=
  match queries[place]? with
  | none => return (.absent, queries)
  | some q => do
    let (report, q) ← act q
    return (report, queries.set place q)

def useStore (session : Session) (place : Nat)
    (act : Query Store → Action (Report × Query Store)) : Action (Report × Session) := do
  let (report, stores) ← use session.stores place act
  return (report, { session with stores := stores })

def useList (session : Session) (place : Nat)
    (act : Query (List Json) → Action (Report × Query (List Json))) :
    Action (Report × Session) := do
  let (report, lists) ← use session.lists place act
  return (report, { session with lists := lists })

/-- What shows of a session. -/
abbrev View :=
  List ((String × List Json × Settings) × List Nat × List Condition) ×
    List (List Json × List Nat × List Condition)

def shown (session : Session) : View :=
  (session.stores.map (Query.shown Store.shown), session.lists.map (Query.shown id))

variable {first second : Session}

theorem shown_eq_iff : first.shown = second.shown ↔
    first.stores.map (Query.shown Store.shown) = second.stores.map (Query.shown Store.shown) ∧
      first.lists.map (Query.shown id) = second.lists.map (Query.shown id) := by
  simp only [shown, Prod.mk.injEq]

theorem alike_use {R V : Type} {see : R → V} {queries others : List (Query R)}
    (same : queries.map (Query.shown see) = others.map (Query.shown see)) (place : Nat)
    {act also : Query R → Action (Report × Query R)}
    (alike : ∀ q r, q.shown see = r.shown see →
      Alike (Prod.map id (Query.shown see)) (act q) (also r)) :
    Alike (Prod.map id (List.map (Query.shown see))) (use queries place act)
      (use others place also) := by
  have there : queries[place]?.map (Query.shown see) = others[place]?.map (Query.shown see) := by
    rw [← List.getElem?_map, same, List.getElem?_map]
  unfold use
  cases found : queries[place]? with
  | none =>
    rw [found] at there
    rw [Option.map_eq_none_iff.1 there.symm]
    exact .done (Prod.ext rfl same)
  | some q =>
    rw [found] at there
    obtain ⟨r, beside, shown⟩ := Option.map_eq_some_iff.1 there.symm
    rw [beside]
    apply (alike q r shown.symm).bind_pair
    intro report after other changed
    refine .done (Prod.ext rfl ?_)
    simp only [Prod.map, List.map_set, changed, same]

section
variable (same : first.shown = second.shown) (place : Nat)
include same

theorem alike_useStore {act also : Query Store → Action (Report × Query Store)}
    (alike : ∀ q r, q.shown Store.shown = r.shown Store.shown →
      Alike (Prod.map id (Query.shown Store.shown)) (act q) (also r)) :
    Alike (Prod.map id shown) (first.useStore place act) (second.useStore place also) := by
  obtain ⟨stores, lists⟩ := shown_eq_iff.1 same
  apply (alike_use stores place alike).bind_pair
  exact fun report after also changed =>
    .done (Prod.ext rfl (shown_eq_iff.2 ⟨changed, lists⟩))

theorem alike_useList {act also : Query (List Json) → Action (Report × Query (List Json))}
    (alike : ∀ q r, q.shown id = r.shown id →
      Alike (Prod.map id (Query.shown id)) (act q) (also r)) :
    Alike (Prod.map id shown) (first.useList place act) (second.useList place also) := by
  obtain ⟨stores, lists⟩ := shown_eq_iff.1 same
  apply (alike_use lists place alike).bind_pair
  exact fun report after also changed =>
    .done (Prod.ext rfl (shown_eq_iff.2 ⟨stores, changed⟩))

end
end Session

namespace Turn

def perform (session : Session) : Turn → Action (Report × Session)
  | openStore path settings cache => do
    let store ← Store.openWith path settings cache
    return (.opened, { session with stores := session.stores ++ [store.query] })
  | openList records cache =>
    return (.opened, { session with lists := session.lists ++ [.start records cache] })
  | openQuery place cache => session.useStore place fun q =>
    return (.opened, .start q.backing cache)
  | operate place operation => session.useStore place fun q => do
    let (reply, q) ← operation.perform q
    return (.operated reply, q)
  | reload place => session.useStore place fun q => do
    let store ← q.backing.reload
    return (.reloaded, store.query)
  | line place format text => session.useStore place fun q => do
    let result ← Console.runLine format q.backing text
    return (.printed result.output result.ending, result.store.query)
  | step place inner => session.useList place fun q => do
    let (reply, q) ← q.perform inner
    return (.stepped reply, q)
  | parse cache raw => do
    let found ← Action.condition? cache raw
    return (.parsed (found.map (·.condition)), session)

def performAll (session : Session) : List Turn → Action (List Report × Session)
  | [] => return ([], session)
  | turn :: rest => do
    let (report, session) ← turn.perform session
    let (reports, session) ← performAll session rest
    return (report :: reports, session)

/-- The same turn, with other caches for what it opens or asks. -/
def through (rename : CacheId → CacheId) : Turn → Turn
  | openStore path settings cache => openStore path settings (rename cache)
  | openList records cache => openList records (rename cache)
  | openQuery place cache => openQuery place (rename cache)
  | parse cache raw => parse (rename cache) raw
  | turn => turn

variable {session other : Session} (same : session.shown = other.shown)
include same

/-- What a turn comes to depends on what shows of the session. -/
theorem alike_perform (rename : CacheId → CacheId) (turn : Turn) :
    Alike (Prod.map id Session.shown) (turn.perform session)
      ((turn.through rename).perform other) := by
  obtain ⟨stores, lists⟩ := Session.shown_eq_iff.1 same
  cases turn with
  | openStore path settings cache =>
    apply (Store.alike_openWith path settings cache (rename cache)).bind
    intro a b opened
    refine .done (Prod.ext rfl (Session.shown_eq_iff.2 ⟨?_, lists⟩))
    rw [List.map_append, List.map_append, stores, List.map_singleton, List.map_singleton,
      Store.shown_query opened]
  | openList records cache =>
    refine .done (Prod.ext rfl (Session.shown_eq_iff.2 ⟨stores, ?_⟩))
    rw [List.map_append, List.map_append, lists]
    rfl
  | openQuery place cache =>
    apply Session.alike_useStore same
    intro q r shown
    have backing := (Query.shown_eq_iff.1 shown).1
    exact .done (Prod.ext rfl (Query.shown_start Store.shows_shown backing _ _))
  | operate place operation =>
    apply Session.alike_useStore same
    intro q r shown
    apply (Store.alike_operation shown operation).bind_pair
    exact fun reply after also changed => .done (Prod.ext rfl changed)
  | reload place =>
    apply Session.alike_useStore same
    intro q r shown
    apply (Store.alike_reload (Query.shown_eq_iff.1 shown).1).bind
    exact fun after also loaded => .done (Prod.ext rfl (Store.shown_query loaded))
  | line place format text =>
    apply Session.alike_useStore same
    intro q r shown
    apply (Console.alike_runLine (Query.shown_eq_iff.1 shown).1 format text).bind
    intro result also ran
    simp only [Console.LineResult.shown, Prod.mk.injEq] at ran
    obtain ⟨output, ending, store⟩ := ran
    exact .done (Prod.ext (congrArg₂ Report.printed output ending) (Store.shown_query store))
  | step place inner =>
    apply Session.alike_useList same
    intro q r shown
    apply (Query.alike_perform RecordSet.shows_list shown inner).bind_pair
    exact fun reply after also changed => .done (Prod.ext rfl changed)
  | parse cache raw =>
    apply (Alike.condition? cache (rename cache) raw).bind
    exact fun found also condition =>
      .done (Prod.ext (congrArg Report.parsed condition) same)

theorem alike_performAll (rename : CacheId → CacheId) (turns : List Turn) :
    Alike (Prod.map id Session.shown) (performAll session turns)
      (performAll other (turns.map (through rename))) := by
  induction turns generalizing session other with
  | nil => exact .done (Prod.ext rfl same)
  | cons turn rest ih =>
    apply (alike_perform same rename turn).bind_pair
    intro report after also taken
    apply (ih taken).bind_pair
    exact fun reports after also taken => .done (Prod.ext rfl taken)

end Turn

section
variable {F : Type} [FileSystem F]

/-- Whether turns, one after the other, lead from a session in a world to another one; in between,
others may change the files. The history is what the turns asked of caches, first to last. -/
inductive Evolves (session : Session) (world : World F) :
    List (CacheId × String) → Session → World F → Prop where
  | stay : Evolves session world [] session world
  | turn {history : List (CacheId × String)} {there : Session} {later : World F} (turn : Turn) :
    Evolves session world history there later →
    Evolves session world (history ++ asked (turn.perform there) later)
      (run (turn.perform there) later).1.2 (run (turn.perform there) later).2
  | files {history : List (CacheId × String)} {there : Session} {later : World F} (files : F) :
    Evolves session world history there later →
    Evolves session world history there { later with files := files }

namespace Evolves
variable {session there : Session} {world later : World F} {history : List (CacheId × String)}

theorem keeps (evolves : Evolves session world history there later) : world.Keeps later := by
  induction evolves with
  | stay => exact .refl world
  | turn turn _ ih => exact ih.trans (keeps_run _ _)
  | files files _ ih => exact ih

theorem reachable (evolves : Evolves session world history there later)
    (reachable : world.Reachable) : later.Reachable := by
  induction evolves with
  | stay => exact reachable
  | turn turn _ ih => exact ih.run _
  | files files _ ih => exact ih.files files

theorem remembers {before : List (CacheId × String)}
    (evolves : Evolves session world history there later) (remembers : world.Remembers before) :
    later.Remembers (before ++ history) := by
  induction evolves with
  | stay => rwa [List.append_nil]
  | turn turn _ ih =>
    rw [← List.append_assoc]
    exact ih.run (Turn.alike_perform rfl id turn)
  | files files _ ih => exact ih.of_files files

theorem trans {further : List (CacheId × String)} {after : Session} {last : World F}
    (first : Evolves session world history there later)
    (second : Evolves there later further after last) :
    Evolves session world (history ++ further) after last := by
  induction second with
  | stay => rwa [List.append_nil]
  | turn turn _ ih =>
    rw [← List.append_assoc]
    exact ih.turn turn
  | files files _ ih => exact ih.files files

theorem performAll (session : Session) (world : World F) (turns : List Turn) :
    Evolves session world (asked (Turn.performAll session turns) world)
      (run (Turn.performAll session turns) world).1.2
      (run (Turn.performAll session turns) world).2 := by
  induction turns generalizing session world with
  | nil => exact .stay
  | cons turn rest ih =>
    have here : Evolves session world ([] ++ asked (turn.perform session) world) _ _ :=
      .turn turn .stay
    have whole := here.trans (ih _ _)
    simpa only [Turn.performAll, run_bind, asked_bind, run_pure, asked_pure, List.nil_append,
      List.append_nil] using whole

end Evolves

/-- What asking a cache for a text comes to, now and later. -/
structure Recalls (session : Session) (world : World F) (id : CacheId) (raw : String) : Prop where
  parsed : (run (Action.condition? id raw) world).1.map (·.condition) = Condition.parse? raw
  /-- Whatever happens in between, asking again gives the very entry, and changes nothing. -/
  again : ∀ {more there later},
    Evolves session (run (Action.condition? id raw) world).2 more there later →
    run (Action.condition? id raw) later = ((run (Action.condition? id raw) world).1, later)
  /-- No other text ever has the same entry. -/
  own : ∀ {more there later entry other same},
    Evolves session (run (Action.condition? id raw) world).2 more there later →
    (run (Action.condition? id raw) world).1 = some entry →
    (run (Action.condition? id other) later).1 = some same → same.slot = entry.slot → other = raw

theorem recalls_of_faithful {world : World F} (faithful : world.Faithful) (session : Session)
    (id : CacheId) (raw : String) : Recalls session world id raw where
  parsed := faithful.condition? id raw
  again evolves := run_condition?_again evolves.keeps
  own evolves found again same := text_of_slot found evolves.keeps again same.symm

/-- All that can be seen of turns: their reports, the session after them, and what they do to the
files. -/
structure Seen (F : Type) where
  reports : List Report
  session : Session.View
  files : F
  requests : List Request

def seen (session : Session) (world : World F) (turns : List Turn) : Seen F :=
  let result := run (Turn.performAll session turns) world
  ⟨result.1.1, result.1.2.shown, result.2.files, requests (Turn.performAll session turns) world⟩

theorem seen_eq {first second : World F} (faithful : first.Faithful) (also : second.Faithful)
    (same : first.files = second.files) {session other : Session}
    (shown : session.shown = other.shown) (rename : CacheId → CacheId) (turns : List Turn) :
    seen session first turns = seen other second (turns.map (Turn.through rename)) := by
  obtain ⟨results, files, requested⟩ :=
    run_of_alike (Turn.alike_performAll shown rename turns) faithful also same
  obtain ⟨reports, sessions⟩ := Prod.mk.inj results
  simp only [seen, Seen.mk.injEq]
  exact ⟨reports, sessions, files, requested⟩

/-- Caches stay out of sight. After any history of stores, queries and console lines, asking a cache
gives what the text parses to, and from then on that very entry. A cache contains the texts that
were asked of it and has one entry for each of them; where all turns share it, as many were reported
as parsed. Whatever turns follow, all that can be seen of them is the same in any other world with
these files, whatever its caches hold and whichever of them are asked. -/
theorem caches_unseen {files : F} {history : List (CacheId × String)} {session : Session}
    {world : World F} (past : Evolves .start (World.start files) history session world) :
    (∀ id raw, Recalls session world id raw ∧
      ((world.caches id).contains raw = true ↔ (id, raw) ∈ history)) ∧
    (∀ id, (world.caches id).size = ((history.filter (·.1 = id)).map Prod.snd).toFinset.card ∧
      ((∀ call ∈ history, call.1 = id) →
        (world.caches id).size = world.log.countP Event.isMiss)) ∧
    ∀ {elsewhere : World F}, elsewhere.Reachable → world.files = elsewhere.files →
      ∀ {alike : Session}, session.shown = alike.shown → ∀ rename turns,
        seen session world turns = seen alike elsewhere (turns.map (Turn.through rename)) := by
  have faithful := (past.reachable (.start files)).faithful
  have remembers : world.Remembers history := past.remembers (.start files)
  refine ⟨?_, fun id => ⟨remembers.size_eq id, remembers.size_eq_reported⟩, ?_⟩
  · intro id raw
    exact ⟨recalls_of_faithful faithful session id raw,
      ConditionCache.contains_iff.trans (remembers.entered id raw)⟩
  · intro elsewhere reachable same alike shown rename turns
    exact seen_eq faithful reachable.faithful same shown rename turns

theorem caches_unseen_filled :
    let filling : List Turn := [.openStore "a.json" .default .shared,
      .operate 0 (.insert (.object [("k", .string "v")])), .operate 0 (.step (.filter "k = v")),
      .parse .shared "k v", .line 0 .json "COUNT k = v"]
    let turns : List Turn := [.openStore "a.json" .default .shared,
      .operate 1 (.updateWhere "k = v" (.object [("k", .null)])), .openQuery 1 .shared,
      .operate 1 (.step (.filter "k = null")), .operate 1 (.step .get)]
    let filled := run (Turn.performAll .start filling) (World.start Disk.empty)
    let fresh := World.start filled.2.files
    (filled.2.caches .shared).size = 2 ∧ (filled.2.caches .shared).contains "k v" = true ∧
      filled.2.log.countP Event.isMiss = 2 ∧ Recalls filled.1.2 filled.2 .shared "k = v" ∧
      seen filled.1.2 filled.2 turns =
        seen filled.1.2 fresh (turns.map (Turn.through fun _ => .own 1)) := by
  intro filling turns filled fresh
  obtain ⟨asking, sizes, same⟩ :=
    caches_unseen (Evolves.performAll .start (World.start Disk.empty) filling)
  have shared : ∀ call ∈ asked (Turn.performAll .start filling) (World.start Disk.empty),
      call.1 = CacheId.shared := by
    decide +kernel
  have two : (filled.2.caches .shared).size = 2 := by decide +kernel
  have held : (filled.2.caches .shared).contains "k v" = true := by decide +kernel
  refine ⟨two, held, ?_, (asking .shared "k = v").1, ?_⟩
  · rw [← two]
    exact ((sizes .shared).2 shared).symm
  · exact same (.start filled.2.files) rfl rfl (fun _ => .own 1) turns

end
end RecordStore
