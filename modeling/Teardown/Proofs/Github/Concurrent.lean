import Mathlib.Data.List.Nodup
import Mathlib.Logic.Relation
import Mathlib.Tactic.Lemma
import Teardown.Proofs.Github.Title
import Teardown.Proofs.Github.Transcript
import Teardown.Proofs.Json.RoundTrip

/-!
# Starts that work at the same time

Any number of starts, for different instances, send their requests in any order to one remote
service.  The service titles the run of an accepted dispatch with some fixed words and the slug; it
lists the newest runs that are visible, shows a new run at any later moment, and creates runs for
others in between.  `Step` is one answered question of one start, or one move of the service alone.

No test of a start is enough by itself.  The snapshot is cut off after one page, so that an old run
need not be known; but every run that is in view later is on the page of the snapshot or younger
than the snapshot (`mem_newest_append`).  Of the younger runs only the one that the start itself
dispatched mentions its slug (`mentions_append_iff`).  `Tracked` combines the two into what is known
about a start in each phase, and `step_consistent` says that no step of anybody breaks it.
-/

namespace Teardown.Github

/-- The slug that a request asks a run for. -/
def Request.slug? (r : Request) : Option String :=
  match (r.body.bind (Json.get? "inputs")).bind (Json.get? "instance_slug") with
  | some (.str slug) => some slug
  | _ => none

/-- A dispatch asks for a run for its slug. -/
lemma Account.slug?_dispatch (a : Account) (slug : String) :
    (a.dispatch slug).slug? = some slug := rfl

/-! ### The remote service -/

/-- A run that was created, and the number of the start whose dispatch created it. -/
structure Created where
  run : ListedRun
  caller? : Option Nat

/-- The runs of the cleanup workflow, the oldest first, and the ids that are not listed yet. -/
structure Site where
  created : List Created
  hidden : List Int

/-- The runs on one page: the newest first. -/
def newest (cs : List Created) : List ListedRun :=
  (cs.reverse.take Account.pageSize).map Created.run

namespace Site

/-- The run is listed if it is new enough. -/
def Visible (site : Site) (c : Created) : Prop :=
  c.run.id.value ∉ site.hidden

instance (site : Site) (c : Created) : Decidable (site.Visible c) :=
  inferInstanceAs (Decidable (_ ∉ _))

/-- The runs that a list shows. -/
def page (site : Site) : List ListedRun :=
  newest (site.created.filter (site.Visible ·))

/-- No run has the id of this one. -/
def Lacks (site : Site) (run : ListedRun) : Prop :=
  ∀ c ∈ site.created, c.run.id.value ≠ run.id.value

instance (site : Site) (run : ListedRun) : Decidable (site.Lacks run) :=
  inferInstanceAs (Decidable (∀ _ ∈ _, _))

/-- Creates a run, which may at first be hidden. -/
def create (site : Site) (c : Created) (isHidden : Bool) : Site where
  created := site.created ++ [c]
  hidden := if isHidden then c.run.id.value :: site.hidden else site.hidden

/-- Lists a run from now on. -/
def reveal (site : Site) (id : Int) : Site :=
  { site with hidden := site.hidden.filter (· ≠ id) }

/-- What the service does about a request of the start `k`, and what it answers.  Without an
answer it may still have created a run, but every accepted dispatch has created one. -/
inductive Serves (words : String) (k : Nat) (site : Site) (request : Request) :
    Exchange → Site → Prop where
  | lists {x} (get : request.method = .get)
      (page : ∀ runs, Lists x runs → runs.Perm site.page) : Serves words k site request x site
  | creates {x slug run isHidden} (post : request.method = .post)
      (asked : request.slug? = some slug) (titled : run.title = words ++ slug)
      (fresh : site.Lacks run) :
      Serves words k site request x (site.create ⟨run, some k⟩ isHidden)
  | rejects {x} (post : request.method = .post) (refused : ¬ Accepted x) :
      Serves words k site request x site

/-- What the service does while a question of the start `k` is answered. -/
def Answers (words : String) (k : Nat) (site : Site) :
    (q : Start.Question) → Start.Answer q → Site → Prop
  | .send request, x, site' => site.Serves words k request x site'
  | .pause _, _, site' => site' = site

end Site

/-! ### Starts at work -/

/-- The service and the starts. -/
structure Traffic where
  site : Site
  calls : List Start.State

/-- The start has its snapshot, and it is not over. -/
def Start.Phase.Open : Phase → Prop
  | .listing | .ended _ => False
  | .dispatching _ | .pausing _ _ | .looking _ _ => True

/-- One move of a start or of the service. -/
inductive Step (a : Account) (words : String) (slugs : List String) : Traffic → Traffic → Prop where
  /-- A question of a start is answered, which is one move of `Account.start` (`start_of_slug`).
  When a start takes its snapshot, no run that exists so far is hidden. -/
  | call {t k slug log q resume x site'} {state : Start.State} (slug_of : slugs[k]? = some slug)
      (state_of : t.calls[k]? = some state)
      (asks : Start.next a (Text.strip slug) state = .ask log q resume)
      (snapshot : state.phase = .listing → ∀ c ∈ t.site.created, t.site.Visible c)
      (answers : t.site.Answers words k q x site') :
      Step a words slugs t ⟨site', t.calls.set k (resume x)⟩
  /-- Somebody else creates a run, whose title mentions no slug of a start that is under way. -/
  | foreign {t run isHidden} (fresh : t.site.Lacks run)
      (silent : ∀ (k : Nat) (slug : String) (state : Start.State), slugs[k]? = some slug →
        t.calls[k]? = some state → state.phase.Open → mentions slug run.title = false) :
      Step a words slugs t { t with site := t.site.create ⟨run, none⟩ isHidden }
  /-- A run is listed from now on. -/
  | reveal {t id} : Step a words slugs t { t with site := t.site.reveal id }

/-- Nothing was asked yet, and the runs that exist were created by others. -/
def Traffic.opening (slugs : List String) (site : Site) : Traffic where
  site
  calls := slugs.map fun _ => .initial

/-! ### What is in view -/

/-- What is in view after some runs were created was in view before, or it is one of them. -/
lemma mem_newest_append {old new : List Created} {run : ListedRun}
    (h : run ∈ newest (old ++ new)) : run ∈ newest old ∨ ∃ c ∈ new, c.run = run := by
  obtain ⟨c, hc, rfl⟩ := List.mem_map.mp h
  rw [List.reverse_append, List.take_append] at hc
  rcases List.mem_append.mp hc with hnew | hold
  · exact .inr ⟨c, List.mem_reverse.mp (List.mem_of_mem_take hnew), rfl⟩
  · have hsub := List.take_subset_take_left old.reverse
      (Nat.sub_le Account.pageSize new.reverse.length)
    exact .inl (List.mem_map_of_mem (hsub hold))

/-- A list that shows a page is read as the runs of this page, in some order. -/
lemma Site.Serves.page_of_lists {words : String} {k : Nat} {site site' : Site} {request : Request}
    {x : Exchange} {runs : List ListedRun} (h : site.Serves words k request x site')
    (get : request.method = .get) (hlists : Lists x runs) : site' = site ∧ runs.Perm site.page := by
  cases h with
  | lists _ page => exact ⟨rfl, page runs hlists⟩
  | creates post | rejects post => exact Method.noConfusion (get.symm.trans post)

/-! ### What is known about a start -/

/-- Since its snapshot a start knows the runs that were in view then, and of the younger runs only
its own may mention its slug. -/
structure Since (slug : String) (k : Nat) (known : List Int) (site : Site)
    (old new : List Created) : Prop where
  created : site.created = old ++ new
  visible : ∀ c ∈ old, site.Visible c
  known : ∀ run ∈ newest old, run.id.value ∈ known
  own : ∀ c ∈ new, mentions slug c.run.title = true → c.caller? = some k

/-- No run was created for the start. -/
def Site.Idle (site : Site) (k : Nat) : Prop :=
  ∀ c ∈ site.created, c.caller? ≠ some k

/-- At most one run was created for the start. -/
def Site.Single (site : Site) (k : Nat) : Prop :=
  ∀ c ∈ site.created, ∀ d ∈ site.created, c.caller? = some k → d.caller? = some k → c = d

/-- What is known about a start in each phase. -/
inductive Tracked (slug : String) (k : Nat) (site : Site) : Start.Phase → Prop where
  | listing (idle : site.Idle k) : Tracked slug k site .listing
  | dispatching {known old new} (since : Since slug k known site old new) (idle : site.Idle k) :
      Tracked slug k site (.dispatching known)
  | pausing {known attempt old new} (since : Since slug k known site old new)
      (single : site.Single k) : Tracked slug k site (.pausing known attempt)
  | looking {known attempt old new} (since : Since slug k known site old new)
      (single : site.Single k) : Tracked slug k site (.looking known attempt)
  | located {c} (mem : c ∈ site.created) (own : c.caller? = some k) (single : site.Single k) :
      Tracked slug k site (.ended (.ok ⟨c.run.id, c.run.url⟩))
  | failed {failure} : Tracked slug k site (.ended (.error failure))

section Frame

variable {slug : String} {k : Nat} {known : List Int} {site : Site} {old new : List Created}
variable {c : Created} {isHidden : Bool}

/-- Every run that is listed after the snapshot and that the start does not know is its own if it
mentions the slug. -/
lemma Since.own_of_mem_page {run : ListedRun} (h : Since slug k known site old new)
    (hrun : run ∈ site.page) (hunknown : run.id.value ∉ known)
    (hmentions : mentions slug run.title = true) :
    ∃ c ∈ site.created, c.run = run ∧ c.caller? = some k := by
  have hold : old.filter (site.Visible ·) = old :=
    List.filter_eq_self.mpr fun c hc => decide_eq_true (h.visible c hc)
  unfold Site.page at hrun
  rw [h.created, List.filter_append, hold] at hrun
  rcases mem_newest_append hrun with hknown | ⟨c, hc, rfl⟩
  · exact absurd (h.known run hknown) hunknown
  · have hnew := (List.mem_filter.mp hc).1
    refine ⟨c, ?_, rfl, h.own c hnew hmentions⟩
    rw [h.created]
    exact List.mem_append_right _ hnew

/-- The snapshot of a start is all that it needs to know at first. -/
lemma Since.snapshot {runs : List ListedRun} (hpage : runs.Perm site.page)
    (hvisible : ∀ c ∈ site.created, site.Visible c) :
    Since slug k (runs.map (·.id.value)) site site.created [] where
  created := (List.append_nil _).symm
  visible := hvisible
  known run hrun := by
    have hall : site.created.filter (site.Visible ·) = site.created :=
      List.filter_eq_self.mpr fun c hc => decide_eq_true (hvisible c hc)
    refine List.mem_map_of_mem (hpage.mem_iff.mpr ?_)
    rwa [Site.page, hall]
  own c hc := by cases hc

/-- A created run hides no other run. -/
lemma Site.Visible.create {d : Created} (h : site.Visible d)
    (hne : d.run.id.value ≠ c.run.id.value) : (site.create c isHidden).Visible d := by
  unfold Site.Visible Site.create
  split
  · exact List.not_mem_cons_of_ne_of_not_mem hne h
  · exact h

/-- A new run is one of the younger runs. -/
lemma Since.create (h : Since slug k known site old new) (fresh : site.Lacks c.run)
    (hown : mentions slug c.run.title = true → c.caller? = some k) :
    Since slug k known (site.create c isHidden) old (new ++ [c]) where
  created := by
    rw [← List.append_assoc, ← h.created]
    rfl
  visible d hd := by
    refine (h.visible d hd).create (fresh d ?_)
    rw [h.created]
    exact List.mem_append_left _ hd
  known := h.known
  own := List.forall_mem_append.mpr ⟨h.own, fun d hd => List.mem_singleton.mp hd ▸ hown⟩

lemma Since.reveal (h : Since slug k known site old new) (id : Int) :
    Since slug k known (site.reveal id) old new where
  created := h.created
  visible d hd := fun hmem => h.visible d hd (List.mem_filter.mp hmem).1
  known := h.known
  own := h.own

/-- A run for somebody else leaves a start without a run. -/
lemma Site.Idle.create (h : site.Idle k) (hother : c.caller? ≠ some k) :
    (site.create c isHidden).Idle k :=
  List.forall_mem_append.mpr ⟨h, fun _ hd => List.mem_singleton.mp hd ▸ hother⟩

/-- A first run is the only one. -/
lemma Site.Idle.single (h : site.Idle k) : (site.create c isHidden).Single k := by
  have hlast : ∀ d ∈ (site.create c isHidden).created, d.caller? = some k → d = c := by
    intro d hd hcaller
    rcases List.mem_append.mp hd with hold | hnew
    · exact absurd hcaller (h d hold)
    · exact List.mem_singleton.mp hnew
  intro d hd e he hdk hek
  rw [hlast d hd hdk, hlast e he hek]

/-- A run for somebody else leaves a start with the run that it has. -/
lemma Site.Single.create (h : site.Single k) (hother : c.caller? ≠ some k) :
    (site.create c isHidden).Single k := by
  have hold : ∀ d ∈ (site.create c isHidden).created, d.caller? = some k → d ∈ site.created := by
    intro d hd hcaller
    rcases List.mem_append.mp hd with hmem | hnew
    · exact hmem
    · rw [List.mem_singleton.mp hnew] at hcaller
      exact absurd hcaller hother
  intro d hd e he hdk hek
  exact h d (hold d hd hdk) e (hold e he hek) hdk hek

/-- A run for somebody else whose title does not mention the slug changes nothing for a start. -/
lemma Tracked.create {phase : Start.Phase} (h : Tracked slug k site phase)
    (fresh : site.Lacks c.run) (hother : c.caller? ≠ some k)
    (hsilent : phase.Open → mentions slug c.run.title = false) :
    Tracked slug k (site.create c isHidden) phase := by
  have hown : phase.Open → mentions slug c.run.title = true → c.caller? = some k := by
    intro hopen hmentions
    rw [hsilent hopen] at hmentions
    cases hmentions
  cases h with
  | listing idle => exact .listing (idle.create hother)
  | dispatching since idle =>
    exact .dispatching (since.create fresh (hown trivial)) (idle.create hother)
  | pausing since single =>
    exact .pausing (since.create fresh (hown trivial)) (single.create hother)
  | looking since single =>
    exact .looking (since.create fresh (hown trivial)) (single.create hother)
  | located mem own single =>
    exact .located (List.mem_append_left _ mem) own (single.create hother)
  | failed => exact .failed

/-- That a run is listed changes nothing for a start. -/
lemma Tracked.reveal {phase : Start.Phase} (h : Tracked slug k site phase) (id : Int) :
    Tracked slug k (site.reveal id) phase := by
  cases h with
  | listing idle => exact .listing idle
  | dispatching since idle => exact .dispatching (since.reveal id) idle
  | pausing since single => exact .pausing (since.reveal id) single
  | looking since single => exact .looking (since.reveal id) single
  | located mem own single => exact .located mem own single
  | failed => exact .failed

end Frame

/-! ### The steps -/

/-- The ids of the runs are distinct, and something is known about every start. -/
structure Traffic.Consistent (slugs : List String) (t : Traffic) : Prop where
  distinct : (t.site.created.map (·.run.id.value)).Nodup
  tracked : ∀ (k : Nat) (slug : String) (state : Start.State), slugs[k]? = some slug →
    t.calls[k]? = some state → Tracked slug k t.site state.phase

/-- A run with a new id leaves the ids distinct. -/
lemma Site.Lacks.distinct {site : Site} {c : Created} {isHidden : Bool} (h : site.Lacks c.run)
    (hdistinct : (site.created.map (·.run.id.value)).Nodup) :
    ((site.create c isHidden).created.map (·.run.id.value)).Nodup := by
  have hcreated : (site.create c isHidden).created.map (·.run.id.value) =
      site.created.map (·.run.id.value) ++ [c.run.id.value] := List.map_append
  rw [hcreated]
  refine List.nodup_append.mpr ⟨hdistinct, List.nodup_singleton _, ?_⟩
  intro id hid id' hid'
  obtain ⟨d, hd, rfl⟩ := List.mem_map.mp hid
  rw [List.mem_singleton.mp hid']
  exact h d hd

section Step

variable {a : Account} {words slug : String} {slugs : List String} {k : Nat} {site site' : Site}
variable {state : Start.State}

/-- A start that goes on looking, or that gives up, knows what it knew. -/
lemma Tracked.seek {known : List Int} {old new : List Created}
    (since : Since slug k known site old new) (single : site.Single k) (attempt : Nat)
    (log : List Log.Entry) : Tracked slug k site (Start.seek a slug known attempt log).phase := by
  unfold Start.seek
  split
  · split
    · exact .pausing since single
    · exact .looking since single
  · exact .failed

/-- An answered question takes what is known about a start in one phase to the next. -/
lemma Tracked.answered {log : List Log.Entry} {q : Start.Question}
    {resume : Start.Answer q → Start.State} {x : Start.Answer q}
    (h : Tracked slug k site state.phase) (hask : Start.next a slug state = .ask log q resume)
    (hsnapshot : state.phase = .listing → ∀ c ∈ site.created, site.Visible c)
    (hanswers : site.Answers words k q x site') : Tracked slug k site' (resume x).phase := by
  obtain ⟨entries, phase⟩ := state
  cases h with
  | listing idle =>
    cases hask
    dsimp only
    split
    · exact .failed
    · rename_i runs hruns
      obtain ⟨rfl, hpage⟩ := hanswers.page_of_lists rfl (Account.runsOf_ok hruns)
      exact .dispatching (.snapshot hpage (hsnapshot rfl)) idle
  | dispatching since idle =>
    cases hask
    dsimp only
    split
    · exact .failed
    · rename_i payload hpayload
      obtain ⟨response, hx, haccepted, _⟩ := Request.payload_ok hpayload
      cases hanswers with
      | lists get => exact Method.noConfusion get
      | rejects _ refused => exact absurd ⟨response, hx, haccepted⟩ refused
      | creates _ _ _ fresh => exact .seek (since.create fresh fun _ => rfl) idle.single _ _
  | pausing since single =>
    cases hask
    obtain rfl := hanswers
    exact .looking since single
  | looking since single =>
    cases hask
    dsimp only
    split
    · exact .failed
    · rename_i runs hruns
      obtain ⟨rfl, hpage⟩ := hanswers.page_of_lists rfl (Account.runsOf_ok hruns)
      split
      · rename_i run hfound
        obtain ⟨hlisted, hunknown, hmentions⟩ := mem_of_found? hfound
        obtain ⟨c, hc, rfl, hcaller⟩ :=
          since.own_of_mem_page (hpage.mem_iff.mp hlisted) hunknown hmentions
        exact .located hc hcaller single
      · exact .seek since single _ _
  | located _ _ _ | failed => cases hask

/-- A question of another start is answered without anything new for a start whose slug is not in
the title of the run that may be created. -/
lemma Tracked.others {phase : Start.Phase} {j : Nat} {other : String} {log : List Log.Entry}
    {q : Start.Question} {resume : Start.Answer q → Start.State} {x : Start.Answer q}
    (h : Tracked slug k site phase) (hask : Start.next a other state = .ask log q resume)
    (hanswers : site.Answers words j q x site') (hne : j ≠ k)
    (hsilent : mentions slug (words ++ other) = false) : Tracked slug k site' phase := by
  have hrequest : ∀ {request : Request} {x : Exchange}, site.Serves words j request x site' →
      (∀ title, request.slug? = some title → title = other) → Tracked slug k site' phase := by
    intro request x hserves hslug
    cases hserves with
    | lists | rejects => exact h
    | creates _ asked titled fresh =>
      refine h.create fresh (fun hcaller => hne (Option.some.inj hcaller)) fun _ => ?_
      rw [titled, hslug _ asked]
      exact hsilent
  obtain ⟨entries, phase'⟩ := state
  cases phase' with
  | listing | looking _ _ =>
    cases hask
    exact hrequest hanswers fun title htitle => nomatch htitle
  | dispatching _ =>
    cases hask
    refine hrequest hanswers fun title htitle => ?_
    rw [Account.slug?_dispatch] at htitle
    exact (Option.some.inj htitle).symm
  | pausing _ _ =>
    cases hask
    obtain rfl := hanswers
    exact h
  | ended _ => cases hask

end Step

/-! ### Runs of the service -/

/-- Slugs that titles with some fixed words tell apart: distinct slugs of token characters, behind
words that end in a free character and mention none of them. -/
structure ToldApart (words : String) (slugs : List String) : Prop where
  free : isFree words.toList.getLast? = true
  silent : ∀ slug ∈ slugs, mentions slug words = false
  tokens : ∀ slug ∈ slugs, ∀ c ∈ slug.toList, Text.isToken c = true
  distinct : slugs.Nodup

section Traffic

variable {a : Account} {words : String} {slugs : List String} {t t' : Traffic}

/-- The title of a run for one of the slugs mentions no other slug. -/
lemma ToldApart.mentions_eq_false (h : ToldApart words slugs) {j k : Nat} {other slug : String}
    (hother : slugs[j]? = some other) (hslug : slugs[k]? = some slug) (hne : j ≠ k) :
    mentions slug (words ++ other) = false := by
  have hmem := List.mem_of_getElem? hslug
  refine Bool.eq_false_iff.mpr fun hmentions => hne ?_
  obtain rfl := (mentions_append_iff h.free (h.silent slug hmem) (h.tokens slug hmem)
    (h.tokens other (List.mem_of_getElem? hother))).mp hmentions
  obtain ⟨hj, hother⟩ := List.getElem?_eq_some_iff.mp hother
  obtain ⟨hk, hslug⟩ := List.getElem?_eq_some_iff.mp hslug
  exact (h.distinct.getElem_inj_iff).mp (hother.trans hslug.symm)

/-- A question of a start leaves the ids of the runs distinct. -/
lemma Site.Answers.distinct {k : Nat} {site site' : Site} {q : Start.Question}
    {x : Start.Answer q} (h : site.Answers words k q x site')
    (hdistinct : (site.created.map (·.run.id.value)).Nodup) :
    (site'.created.map (·.run.id.value)).Nodup := by
  cases q with
  | send request =>
    cases h with
    | lists | rejects => exact hdistinct
    | creates _ _ _ fresh => exact fresh.distinct hdistinct
  | pause span =>
    obtain rfl := h
    exact hdistinct

/-- Before the first question, no run was created for a start. -/
lemma consistent_opening {site : Site} (slugs : List String)
    (hids : (site.created.map (·.run.id.value)).Nodup)
    (hothers : ∀ c ∈ site.created, c.caller? = none) :
    (Traffic.opening slugs site).Consistent slugs where
  distinct := hids
  tracked k slug state _ hstate := by
    obtain ⟨_, _, rfl⟩ := List.mem_map.mp (List.mem_of_getElem? hstate)
    refine .listing fun c hc hcaller => ?_
    rw [hothers c hc] at hcaller
    cases hcaller

/-- No step of a start or of the service breaks what is known about the starts. -/
theorem step_consistent (hslugs : ToldApart words slugs) (h : t.Consistent slugs)
    (hstep : Step a words slugs t t') : t'.Consistent slugs := by
  cases hstep with
  | @call j other log q resume x site' caller hother hcaller hask hsnapshot hanswers =>
    refine ⟨hanswers.distinct h.distinct, ?_⟩
    intro k slug state hslug hstate
    have hstrip : Text.strip other = other :=
      Text.strip_of_isToken (hslugs.tokens other (List.mem_of_getElem? hother))
    rw [hstrip] at hask
    by_cases hjk : j = k
    · subst hjk
      obtain rfl := Option.some.inj (hother.symm.trans hslug)
      have hlt := (List.getElem?_eq_some_iff.mp hcaller).1
      rw [List.getElem?_set_self hlt] at hstate
      obtain rfl := Option.some.inj hstate
      exact (h.tracked j other caller hother hcaller).answered hask hsnapshot hanswers
    · rw [List.getElem?_set_ne hjk] at hstate
      exact (h.tracked k slug state hslug hstate).others hask hanswers hjk
        (hslugs.mentions_eq_false hother hslug hjk)
  | foreign fresh silent =>
    refine ⟨fresh.distinct h.distinct, ?_⟩
    intro k slug state hslug hstate
    exact (h.tracked k slug state hslug hstate).create fresh (fun hcaller => nomatch hcaller)
      (silent k slug state hslug hstate)
  | reveal =>
    exact ⟨h.distinct, fun k slug state hslug hstate =>
      (h.tracked k slug state hslug hstate).reveal _⟩

/-- In every state that is reached something is known about every start. -/
lemma reachable_consistent (hslugs : ToldApart words slugs) (h : t.Consistent slugs)
    (hreach : Relation.ReflTransGen (Step a words slugs) t t') : t'.Consistent slugs := by
  induction hreach with
  | refl => exact h
  | tail _ hstep ih => exact step_consistent hslugs ih hstep

/-- Whatever the order in which the starts ask their questions, others create runs and runs are
listed, a start that returns a handle returns that of the one run which its own dispatch created. -/
theorem starts_locate_own (hslugs : ToldApart words slugs) {site : Site}
    (hids : (site.created.map (·.run.id.value)).Nodup)
    (hothers : ∀ c ∈ site.created, c.caller? = none)
    (hreach : Relation.ReflTransGen (Step a words slugs) (Traffic.opening slugs site) t)
    {k : Nat} {slug : String} {state : Start.State} {log : List Log.Entry} {handle : RunHandle}
    (hslug : slugs[k]? = some slug) (hstate : t.calls[k]? = some state)
    (hdone : Start.next a (Text.strip slug) state = .done log (.ok handle)) :
    ∃ c ∈ t.site.created, c.caller? = some k ∧ handle = ⟨c.run.id, c.run.url⟩ ∧
      (∀ d ∈ t.site.created, d.caller? = some k → d = c) ∧
      ∀ d ∈ t.site.created, d.run.id.value = c.run.id.value → d = c := by
  obtain ⟨hdistinct, htracked⟩ :=
    reachable_consistent hslugs (consistent_opening slugs hids hothers) hreach
  have htracked := htracked k slug state hslug hstate
  rw [Start.phase_of_done hdone] at htracked
  cases htracked with
  | @located c mem own single =>
    refine ⟨c, mem, own, rfl, fun d hd hcaller => single d hd c mem hcaller own, ?_⟩
    intro d hd hid
    exact List.inj_on_of_nodup_map hdistinct hd mem hid

end Traffic

/-! ### Two starts -/

section Moves

variable {a : Account} {words slug : String} {slugs : List String} {t : Traffic} {k : Nat}
variable {known : List Int} {attempt : Nat} {x : Exchange} {runs : List ListedRun}

/-- The service answers a list with its page. -/
lemma Site.Serves.of_page {site : Site} {request : Request} (hget : request.method = .get)
    (hlists : Lists x site.page) : site.Serves words k request x site :=
  .lists hget fun _ hruns => .of_eq (hlists.unique hruns)

/-- A start takes its snapshot. -/
lemma Step.snapshot {log : List Log.Entry} (hslug : slugs[k]? = some slug)
    (hstate : t.calls[k]? = some ⟨log, .listing⟩) (hlists : Lists x t.site.page)
    (hvisible : ∀ c ∈ t.site.created, t.site.Visible c) :
    Step a words slugs t
      { t with calls := t.calls.set k ⟨[], .dispatching (t.site.page.map (·.id.value))⟩ } := by
  have hstep : Step a words slugs t _ :=
    .call hslug hstate rfl (fun _ => hvisible) (.of_page rfl hlists)
  rw [hlists.runsOf] at hstep
  exact hstep

/-- A start dispatches its run and looks for it at once. -/
lemma Step.dispatch {log : List Log.Entry} {run : ListedRun} (isHidden : Bool)
    (hattempts : 0 < a.lookupAttempts) (hinterval : a.lookupInterval.isPositive = false)
    (hslug : slugs[k]? = some slug) (hstate : t.calls[k]? = some ⟨log, .dispatching known⟩)
    (htitle : run.title = words ++ Text.strip slug) (hfresh : t.site.Lacks run) :
    ∃ log, Step a words slugs t
      ⟨t.site.create ⟨run, some k⟩ isHidden, t.calls.set k ⟨log, .looking known 0⟩⟩ := by
  have hanswers : t.site.Serves words k (a.dispatch (Text.strip slug)) noContent
      (t.site.create ⟨run, some k⟩ isHidden) := .creates rfl rfl htitle hfresh
  have hseek : ∀ log, Start.seek a (Text.strip slug) known 0 log = ⟨log, .looking known 0⟩ := by
    intro log
    rw [Start.seek, if_pos hattempts, hinterval]
    rfl
  have hstep : Step a words slugs t _ :=
    .call hslug hstate rfl (fun hlisting => nomatch hlisting) hanswers
  have hpayload : (a.dispatch (Text.strip slug)).payload noContent = .ok none := rfl
  rw [hpayload] at hstep
  dsimp only at hstep
  rw [hseek] at hstep
  exact ⟨_, hstep⟩

/-- A start finds its run. -/
lemma Step.look {log : List Log.Entry} {run : ListedRun} (hslug : slugs[k]? = some slug)
    (hstate : t.calls[k]? = some ⟨log, .looking known attempt⟩) (hlists : Lists x t.site.page)
    (hfound : Start.found? (Text.strip slug) known t.site.page = some run) :
    ∃ log, Step a words slugs t
      { t with calls := t.calls.set k ⟨log, .ended (.ok ⟨run.id, run.url⟩)⟩ } := by
  have hstep : Step a words slugs t _ :=
    .call hslug hstate rfl (fun hlisting => nomatch hlisting) (.of_page rfl hlists)
  rw [hlists.runsOf] at hstep
  dsimp only at hstep
  rw [hfound] at hstep
  exact ⟨_, hstep⟩

end Moves

/-- An old run for the instance `demo`. -/
def oldRun : ListedRun := ⟨.number 1, "cleanup demo", .null⟩

/-- The run that is created for `eu`. -/
def euRun : ListedRun := ⟨.number 2, "cleanup eu", .null⟩

/-- The run that is created for `demo`. -/
def demoRun : ListedRun := ⟨.number 3, "cleanup demo", .null⟩

/-- The value of a list of runs. -/
def pageOf (runs : List ListedRun) : Json :=
  .obj [("workflow_runs", .arr (runs.map fun run =>
    .obj [("id", run.id.toJson), ("display_title", .str run.title)]))]

/-- A response that lists runs. -/
def listing (runs : List ListedRun) : Exchange :=
  answered (pageOf runs)

/-- The runs are read from the text of their list. -/
lemma lists_listing {runs : List ListedRun} {entries : List Json}
    (hdecode : Text.decode (Text.encode (pageOf runs).compact) = some (pageOf runs).compact.toList)
    (hfits : Json.Fits (bodyDialect 900) 900 (pageOf runs))
    (hentries : Json.recorded (pageOf runs) = .obj [("workflow_runs", .arr entries)])
    (hruns : runs = entries.filterMap ListedRun.ofJson?) : Lists (listing runs) runs := by
  have hread : (⟨200, Text.encode (pageOf runs).compact, 900⟩ : Response).json? =
      some (.obj [("workflow_runs", .arr entries)]) := by
    rw [Response.json?_eq_some_iff, Response.read, hdecode, ← hentries]
    exact Json.readChars_compact hfits
  exact ⟨_, entries, ⟨_, rfl, ⟨Nat.le_refl 200, Nat.le_add_right 201 99⟩, hread⟩, rfl, hruns⟩

lemma lists_oldRun : Lists (listing [oldRun]) [oldRun] := by
  refine lists_listing (by decide +kernel) ?_ rfl rfl
  simp [pageOf, Json.Fits, Json.FitsMembers, Json.FitsItems, bodyDialect, Json.Dialect.allows, oldRun,
    RunId.toJson, Nat.toDigits_of_lt_base]

lemma lists_demoRun : Lists (listing [demoRun, euRun, oldRun]) [demoRun, euRun, oldRun] := by
  refine lists_listing (by decide +kernel) ?_ rfl rfl
  simp [pageOf, Json.Fits, Json.FitsMembers, Json.FitsItems, bodyDialect, Json.Dialect.allows, oldRun,
    euRun, demoRun, RunId.toJson, Nat.toDigits_of_lt_base]

/-- The slugs `demo` and `eu` are told apart. -/
lemma toldApart_demo : ToldApart "cleanup " ["demo", "eu"] where
  free := by decide
  silent := by decide +kernel
  tokens := by
    have hdemo : ∀ c ∈ "demo".toList, Text.isToken c = true := List.all_eq_true.mp (by decide)
    have heu : ∀ c ∈ "eu".toList, Text.isToken c = true := List.all_eq_true.mp (by decide)
    exact List.forall_mem_cons.mpr ⟨hdemo, List.forall_mem_singleton.mpr heu⟩
  distinct := by decide

/-- The service before the two starts. -/
def siteOfDemo : Site := ⟨[⟨oldRun, none⟩], []⟩

/-- The service after the two dispatches: the run for `demo` is not listed yet. -/
def siteOfBoth : Site :=
  (siteOfDemo.create ⟨euRun, some 1⟩ false).create ⟨demoRun, some 0⟩ true

/-- Steps of the starts for `demo` and `eu`. -/
abbrev DemoStep : Traffic → Traffic → Prop :=
  Step hasty "cleanup " ["demo", "eu"]

/-- Two starts take their snapshots and dispatch their runs, the run for `demo` is listed late, and
the start for `demo` finds it. -/
lemma reach_located : ∃ log log', Relation.ReflTransGen DemoStep
    (Traffic.opening ["demo", "eu"] siteOfDemo) ⟨siteOfBoth.reveal 3,
      [⟨log, .ended (.ok ⟨demoRun.id, demoRun.url⟩)⟩, ⟨log', .looking [1] 0⟩]⟩ := by
  let known : Start.State := ⟨[], .dispatching [1]⟩
  have hsnapshot : DemoStep (Traffic.opening ["demo", "eu"] siteOfDemo)
      ⟨siteOfDemo, [known, .initial]⟩ := .snapshot (k := 0) rfl rfl lists_oldRun (by decide)
  have hsnapshot' : DemoStep ⟨siteOfDemo, [known, .initial]⟩ ⟨siteOfDemo, [known, known]⟩ :=
    .snapshot (k := 1) rfl rfl lists_oldRun (by decide)
  have hfresh : siteOfDemo.Lacks euRun := by decide
  obtain ⟨log', hdispatch'⟩ : ∃ log', DemoStep ⟨siteOfDemo, [known, known]⟩
      ⟨siteOfDemo.create ⟨euRun, some 1⟩ false, [known, ⟨log', .looking [1] 0⟩]⟩ :=
    Step.dispatch (k := 1) false (by decide) (by decide) rfl rfl (by decide +kernel) hfresh
  have hfresh' : (siteOfDemo.create ⟨euRun, some 1⟩ false).Lacks demoRun := by decide
  obtain ⟨log, hdispatch⟩ : ∃ log, DemoStep
      ⟨siteOfDemo.create ⟨euRun, some 1⟩ false, [known, ⟨log', .looking [1] 0⟩]⟩
      ⟨siteOfBoth, [⟨log, .looking [1] 0⟩, ⟨log', .looking [1] 0⟩]⟩ :=
    Step.dispatch (k := 0) true (by decide) (by decide) rfl rfl (by decide +kernel) hfresh'
  have hreveal : DemoStep ⟨siteOfBoth, [⟨log, .looking [1] 0⟩, ⟨log', .looking [1] 0⟩]⟩
      ⟨siteOfBoth.reveal 3, [⟨log, .looking [1] 0⟩, ⟨log', .looking [1] 0⟩]⟩ := .reveal
  obtain ⟨log'', hlook⟩ : ∃ log'', DemoStep
      ⟨siteOfBoth.reveal 3, [⟨log, .looking [1] 0⟩, ⟨log', .looking [1] 0⟩]⟩
      ⟨siteOfBoth.reveal 3,
        [⟨log'', .ended (.ok ⟨demoRun.id, demoRun.url⟩)⟩, ⟨log', .looking [1] 0⟩]⟩ :=
    Step.look (k := 0) rfl rfl lists_demoRun rfl
  refine ⟨log'', log', ?_⟩
  exact (((((Relation.ReflTransGen.single hsnapshot).tail hsnapshot').tail hdispatch').tail
    hdispatch).tail hreveal).tail hlook

/-- The handle that the start for `demo` returns is that of its own run, the one that was created
last and listed late. -/
theorem demo_locates_own :
    ToldApart "cleanup " ["demo", "eu"] ∧
      (siteOfDemo.created.map (·.run.id.value)).Nodup ∧
      (∀ c ∈ siteOfDemo.created, c.caller? = none) ∧
      ∃ t state log, Relation.ReflTransGen DemoStep (Traffic.opening ["demo", "eu"] siteOfDemo) t ∧
        t.calls[0]? = some state ∧
        Start.next hasty (Text.strip "demo") state = .done log (.ok ⟨.number 3, .null⟩) ∧
        ∃ c ∈ t.site.created, c.caller? = some 0 ∧
          (⟨.number 3, .null⟩ : RunHandle) = ⟨c.run.id, c.run.url⟩ ∧
          (∀ d ∈ t.site.created, d.caller? = some 0 → d = c) ∧
          ∀ d ∈ t.site.created, d.run.id.value = c.run.id.value → d = c := by
  obtain ⟨log, log', hreach⟩ := reach_located
  have hids : (siteOfDemo.created.map (·.run.id.value)).Nodup := by decide
  have hothers : ∀ c ∈ siteOfDemo.created, c.caller? = none := by decide
  refine ⟨toldApart_demo, hids, hothers, _, _, log, hreach, rfl, rfl, ?_⟩
  exact starts_locate_own toldApart_demo hids hothers hreach (k := 0) rfl rfl rfl

end Teardown.Github
