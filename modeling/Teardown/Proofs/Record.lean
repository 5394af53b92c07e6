import Mathlib.Tactic.Lemma
import Teardown.Proofs.World

/-!
# What a record tells

`Tells` reads a record against the tables: each call saw what the calls before it left, and only a
write that succeeds leaves other tables.  A record is searched for two kinds of calls, the committed
writes and the starts of a teardown; a call that is neither is `Idle`.
`EachAfter` is the shape of statements about the order of a record: a property of every entry,
given the entries before it.
-/

namespace Teardown

/-! ### Messages -/

/-- A message and what came of it. -/
abbrev Sent := Github.Message × Github.Exchange

/-- The call that sends a message. -/
def Call.ofSent (sent : Sent) : Call := .send sent.1 sent.2

/-! ### How the tables went -/

/-- The record tells how the tables went from `s` to `t`: each call saw the tables that the calls
before it left, and only a write that succeeds leaves other tables. -/
def Tells : Store → List Call → Store → Prop
  | s, [], t => s = t
  | s, .deployment _ seen _ :: calls, t => seen = s ∧ Tells s calls t
  | s, .location _ seen _ :: calls, t => seen = s ∧ Tells s calls t
  | s, .write id status error before after result :: calls, t =>
    before = s ∧ (Store.Commits id status error before after ∧ result = .ok () ∨
      after = before ∧ ∃ failure, result = .error failure) ∧ Tells after calls t
  | s, .source _ :: calls, t => Tells s calls t
  | s, .start _ _ :: calls, t => Tells s calls t
  | s, .poll _ _ :: calls, t => Tells s calls t
  | s, .send _ _ :: calls, t => Tells s calls t

/-- Two stretches of a record tell one story when the second begins where the first ends. -/
lemma tells_append {calls more : List Call} {s t : Store} :
    Tells s (calls ++ more) t ↔ ∃ u, Tells s calls u ∧ Tells u more t := by
  induction calls generalizing s with
  | nil => simp [Tells]
  | cons call rest ih => cases call <;> simp [Tells, ih, and_assoc]

/-- Messages leave the tables alone. -/
@[simp] lemma tells_sent {sent : List Sent} {s t : Store} :
    Tells s (sent.map .ofSent) t ↔ s = t := by
  induction sent with
  | nil => simp [Tells]
  | cons x rest ih => simpa [Tells, Call.ofSent] using ih

/-! ### Committed writes and starts -/

/-- A committed write of a status and an error text. -/
structure Write where
  id : Int
  status : Status
  error : Option String
  before : Store
  after : Store

/-- The write that a call commits, if it commits one. -/
def Call.write? : Call → Option Write
  | .write id status error before after (.ok _) => some ⟨id, status, error, before, after⟩
  | _ => none

/-- The instance for which a call starts a teardown, whatever comes of it. -/
def Call.start? : Call → Option Instance
  | .start inst _ => some inst
  | _ => none

/-- The failure with which a call ended, if it did not succeed. -/
def Call.failure? : Call → Option Failure
  | .deployment _ _ (.error failure) => some failure
  | .location _ _ (.error failure) => some failure
  | .write _ _ _ _ _ (.error failure) => some failure
  | .source (.error failure) => some failure
  | .start _ (.error failure) => some failure
  | .poll _ (.error failure) => some failure
  | _ => none

/-- A call to the service that runs the teardown. -/
def Call.isRemote : Call → Bool
  | .source _ => true
  | .start _ _ => true
  | .poll _ _ => true
  | .send _ _ => true
  | _ => false

/-- A call that neither commits a write nor starts a teardown. -/
def Call.Idle (call : Call) : Prop :=
  call.write? = none ∧ call.start? = none

/-- The first call of a record commits a write, or it leaves the tables as they are. -/
lemma Tells.uncons {call : Call} {rest : List Call} {s t : Store} (h : Tells s (call :: rest) t) :
    call.write? = none ∧ Tells s rest t ∨
      ∃ w, call.write? = some w ∧ w.before = s ∧ Store.Commits w.id w.status w.error s w.after ∧
        Tells w.after rest t := by
  cases call with
  | deployment | location => exact .inl ⟨rfl, h.2⟩
  | write id status error before after result =>
    obtain ⟨rfl, ⟨committed, rfl⟩ | ⟨rfl, failure, rfl⟩, h⟩ := h
    · exact .inr ⟨_, rfl, rfl, committed, h⟩
    · exact .inl ⟨rfl, h⟩
  | source | start | poll | send => exact .inl ⟨rfl, h⟩

/-- Calls that commit nothing leave the tables alone. -/
lemma Tells.eq_of_no_write {calls : List Call} {s t : Store} (h : Tells s calls t)
    (hwrites : calls.filterMap Call.write? = []) : t = s := by
  induction calls with
  | nil => exact h.symm
  | cons call rest ih =>
    rcases h.uncons with ⟨hnone, hrest⟩ | ⟨w, hwrite, _⟩
    · rw [List.filterMap_cons_none hnone] at hwrites
      exact ih hrest hwrites
    · rw [List.filterMap_cons_some hwrite] at hwrites
      cases hwrites

/-- Calls that commit one write leave the tables as this write does. -/
lemma Tells.of_one_write {calls : List Call} {s t : Store} {w : Write} (h : Tells s calls t)
    (hwrites : calls.filterMap Call.write? = [w]) :
    w.before = s ∧ w.after = t ∧ Store.Commits w.id w.status w.error s t := by
  induction calls with
  | nil => cases hwrites
  | cons call rest ih =>
    rcases h.uncons with ⟨hnone, hrest⟩ | ⟨w', hwrite, hbefore, committed, hrest⟩
    · rw [List.filterMap_cons_none hnone] at hwrites
      exact ih hrest hwrites
    · rw [List.filterMap_cons_some hwrite] at hwrites
      obtain ⟨rfl, hnone⟩ := List.cons_eq_cons.mp hwrites
      obtain rfl := hrest.eq_of_no_write hnone
      exact ⟨hbefore, rfl, committed⟩

/-- The instances are never changed. -/
lemma Tells.instances {calls : List Call} {s t : Store} (h : Tells s calls t) :
    t.instances = s.instances := by
  induction calls generalizing s with
  | nil => exact congrArg Store.instances h.symm
  | cons call rest ih =>
    rcases h.uncons with ⟨_, hrest⟩ | ⟨w, _, _, committed, hrest⟩
    · exact ih hrest
    · exact (ih hrest).trans committed.instances

/-- A row that no committed write names is as it was. -/
lemma Tells.row?_of_unnamed {calls : List Call} {s t : Store} {id : Int} (h : Tells s calls t)
    (hid : ∀ w ∈ calls.filterMap Call.write?, w.id ≠ id) : t.row? id = s.row? id := by
  induction calls generalizing s with
  | nil => exact congrArg (fun u : Store => u.row? id) h.symm
  | cons call rest ih =>
    rcases h.uncons with ⟨hnone, hrest⟩ | ⟨w, hwrite, _, committed, hrest⟩
    · rw [List.filterMap_cons_none hnone] at hid
      exact ih hrest hid
    · rw [List.filterMap_cons_some hwrite] at hid
      have hne : id ≠ w.id := (hid w List.mem_cons_self).symm
      rw [ih hrest fun w' hw' => hid w' (List.mem_cons_of_mem _ hw'), committed.row?_of_ne hne]

/-- A row has the status that the last committed write has given it. -/
lemma Tells.row?_of_last {calls : List Call} {s t : Store} {past later : List Write} {w : Write}
    (h : Tells s calls t) (hsplit : calls.filterMap Call.write? = past ++ w :: later)
    (hlast : ∀ w' ∈ later, w'.id ≠ w.id) :
    ∃ row, t.row? w.id = some row ∧ row.status = w.status.text := by
  induction calls generalizing s past with
  | nil => simp at hsplit
  | cons call rest ih =>
    rcases h.uncons with ⟨hnone, hrest⟩ | ⟨w', hwrite, _, committed, hrest⟩
    · rw [List.filterMap_cons_none hnone] at hsplit
      exact ih hrest hsplit
    · rw [List.filterMap_cons_some hwrite] at hsplit
      cases past with
      | nil =>
        obtain ⟨rfl, hlater⟩ := List.cons_eq_cons.mp hsplit
        obtain ⟨row, now, _, hafter⟩ := committed.rows
        rw [hrest.row?_of_unnamed (hlater ▸ hlast)]
        exact ⟨_, hafter, rfl⟩
      | cons w'' past =>
        obtain ⟨_, hrest'⟩ := List.cons_eq_cons.mp hsplit
        exact ih hrest hrest'

/-- The committed writes among idle calls. -/
lemma filterMap_write?_idle {calls : List Call} (hidle : ∀ call ∈ calls, call.Idle) :
    calls.filterMap Call.write? = [] :=
  List.filterMap_eq_nil_iff.mpr fun call hcall => (hidle call hcall).1

/-- The starts among idle calls. -/
lemma filterMap_start?_idle {calls : List Call} (hidle : ∀ call ∈ calls, call.Idle) :
    calls.filterMap Call.start? = [] :=
  List.filterMap_eq_nil_iff.mpr fun call hcall => (hidle call hcall).2

/-- The committed writes of a record, each with its turn. -/
def commits (record : List Event) : List (Nat × Write) :=
  record.filterMap fun e => e.call.write?.map (Prod.mk e.turn)

/-- The committed writes after some more calls of one turn. -/
lemma commits_append (record : List Event) (k : Nat) (calls : List Call) :
    commits (record ++ calls.map (Event.mk k)) =
      commits record ++ (calls.filterMap Call.write?).map (Prod.mk k) := by
  unfold commits
  rw [List.filterMap_append, List.filterMap_map, List.map_filterMap]
  rfl

/-- The committed writes of a record without their turns. -/
lemma commits_map_snd (record : List Event) :
    (commits record).map Prod.snd = (record.map Event.call).filterMap Call.write? := by
  unfold commits
  rw [List.map_filterMap, List.filterMap_map]
  congr 1
  funext e
  cases hwrite : e.call.write? <;> simp [hwrite]

/-- A row that no committed write of a record names is as it was. -/
lemma row?_of_commits {record : List Event} {s t : Store} {id : Int}
    (h : Tells s (record.map Event.call) t) (hid : ∀ c ∈ commits record, c.2.id ≠ id) :
    t.row? id = s.row? id := by
  refine h.row?_of_unnamed fun w hw => ?_
  rw [← commits_map_snd] at hw
  obtain ⟨c, hc, rfl⟩ := List.mem_map.mp hw
  exact hid c hc

/-! ### The calls of one turn -/

/-- The calls that were made in a turn. -/
def callsOf (k : Nat) (record : List Event) : List Call :=
  (record.filter (·.turn == k)).map Event.call

/-- The calls of a turn after some more calls of that turn. -/
lemma callsOf_append_self (record : List Event) (k : Nat) (calls : List Call) :
    callsOf k (record ++ calls.map (Event.mk k)) = callsOf k record ++ calls := by
  unfold callsOf
  have hall : (calls.map (Event.mk k)).filter (·.turn == k) = calls.map (Event.mk k) := by
    simp [List.filter_eq_self]
  rw [List.filter_append, List.map_append, hall, List.map_map]
  exact congrArg _ (List.map_id calls)

/-- The calls of a turn after some more calls of another turn. -/
lemma callsOf_append_of_ne {j k : Nat} (hne : j ≠ k) (record : List Event) (calls : List Call) :
    callsOf j (record ++ calls.map (Event.mk k)) = callsOf j record := by
  unfold callsOf
  have hnone : (calls.map (Event.mk k)).filter (·.turn == j) = [] := by
    simp [List.filter_eq_nil_iff, hne.symm]
  rw [List.filter_append, hnone, List.append_nil]

/-- The committed writes of one turn are the committed writes of the record with that turn. -/
lemma writes_callsOf (k : Nat) (record : List Event) :
    (callsOf k record).filterMap Call.write? =
      ((commits record).filter (·.1 == k)).map Prod.snd := by
  unfold callsOf commits
  rw [List.filterMap_map, List.filterMap_filter, List.filter_filterMap, List.map_filterMap]
  congr 1
  funext e
  by_cases hturn : e.turn = k
  · cases hwrite : e.call.write? <;> simp [hturn, hwrite, Option.filter]
  · cases hwrite : e.call.write? <;> simp [hturn, Option.filter]

/-! ### Entries after entries -/

section EachAfter

variable {α β : Type} {P : List α → α → Prop} {l more : List α} {x : α}

/-- A property of every entry of a list, given the entries before it. -/
def EachAfter (P : List α → α → Prop) (l : List α) : Prop :=
  ∀ past x later, l = past ++ x :: later → P past x

namespace EachAfter

lemma nil : EachAfter P [] := by
  intro past x later h
  simp at h

lemma singleton (h : P [] x) : EachAfter P [x] := by
  intro past y later hsplit
  rcases List.cons_eq_append_iff.mp hsplit with ⟨rfl, hy⟩ | ⟨rest, _, hrest⟩
  · obtain ⟨rfl, rfl⟩ := List.cons_eq_cons.mp hy
    exact h
  · simp at hrest

/-- A property that does not depend on the entries before. -/
lemma of_forall (h : ∀ y ∈ l, ∀ past, P past y) : EachAfter P l := by
  rintro past y later rfl
  exact h y (by simp) past

/-- The entries of a second list come after those of the first. -/
lemma append (h : EachAfter P l) (hmore : EachAfter (fun past => P (l ++ past)) more) :
    EachAfter P (l ++ more) := by
  intro past y later hsplit
  rcases List.append_eq_append_iff.mp hsplit with ⟨rest, rfl, hrest⟩ | ⟨rest, hl, hrest⟩
  · exact hmore rest y later hrest
  · rcases List.cons_eq_append_iff.mp hrest with ⟨rfl, hmore'⟩ | ⟨rest', rfl, _⟩
    · have hpast : l ++ [] = past := by rw [List.append_nil, hl, List.append_nil]
      exact hpast ▸ hmore [] y later hmore'
    · exact h past y rest' hl

/-- One more entry. -/
lemma snoc (h : EachAfter P l) (hx : P l x) : EachAfter P (l ++ [x]) :=
  h.append (singleton ((List.append_nil l).symm ▸ hx))

/-- The entries of a mapped list are the mapped entries. -/
lemma map {f : β → α} {m : List β} (h : EachAfter (fun past y => P (past.map f) (f y)) m) :
    EachAfter P (m.map f) := by
  intro past x later hsplit
  obtain ⟨first, rest, rfl, rfl, hrest⟩ := List.map_eq_append_iff.mp hsplit
  obtain ⟨y, tail, rfl, rfl, _⟩ := List.map_eq_cons_iff.mp hrest
  exact h first y tail rfl

/-- Every entry has the property after some of the others. -/
lemma exists_of_mem (h : EachAfter P l) (hx : x ∈ l) : ∃ past, P past x ∧ past ⊆ l := by
  obtain ⟨past, later, hsplit⟩ := List.append_of_mem hx
  exact ⟨past, h past x later hsplit, hsplit ▸ List.subset_append_left past _⟩

end EachAfter

/-- If some entry has a property, then there is a last entry that has it. -/
lemma exists_last {p : α → Prop} (h : ∃ x ∈ l, p x) :
    ∃ past x later, l = past ++ x :: later ∧ p x ∧ ∀ y ∈ later, ¬ p y := by
  induction l with
  | nil =>
    obtain ⟨x, hx, _⟩ := h
    cases hx
  | cons a rest ih =>
    by_cases hrest : ∃ x ∈ rest, p x
    · obtain ⟨past, x, later, rfl, hx, hlater⟩ := ih hrest
      exact ⟨a :: past, x, later, rfl, hx, hlater⟩
    · obtain ⟨x, hx, hpx⟩ := h
      rcases List.mem_cons.mp hx with rfl | hmem
      · exact ⟨[], x, rest, rfl, hpx, fun y hy hpy => hrest ⟨y, hy, hpy⟩⟩
      · exact absurd ⟨x, hmem, hpx⟩ hrest

end EachAfter

end Teardown
