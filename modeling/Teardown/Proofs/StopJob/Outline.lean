import Mathlib.Tactic.Lemma
import Teardown.Proofs.StopJob.Course

/-!
# What a job commits and starts

`Outline` keeps of a course what others can see of it: the committed writes and the starts.  A job
commits nothing and starts nothing, or it commits the mark; after the mark it starts one teardown;
after the start it commits at most one more write, its terminal one.  All other calls are `Idle`.

`Outline.effect` reads an outline against the tables: the mark is committed over the row that the
job has read, and a terminal write over the mark.
-/

namespace Teardown

namespace StopJob

/-- The terminal writes of a job. -/
inductive Terminal : Status → Option String → Prop where
  | stopped : Terminal .stopped none
  | failed (cause : Failure) : Terminal .failed (some (failureText cause))

section Outline

variable (config : Config Seconds)

/-- The calls of a job that has marked its deployment, started one teardown, and committed nothing
since. -/
inductive Started : Instance → List Call → Prop where
  | intro {inst marking result later} {sent : List Sent} (marked : Marked config inst marking)
      (idle : ∀ call ∈ later, call.Idle) :
      Started inst (marking ++ (sent.map .ofSent ++ .start inst result :: later))

/-- The calls of a job, as far as they commit writes or start a teardown. -/
inductive Outline : List Call → Prop where
  | idle {calls} (idle : ∀ call ∈ calls, call.Idle) : Outline calls
  | marked {inst calls} (marked : Marked config inst calls) : Outline calls
  | started {inst calls} (started : Started config inst calls) : Outline calls
  | ended {inst calls status error s t} (started : Started config inst calls)
      (terminal : Terminal status error)
      (committed : Store.Commits config.deploymentId status error s t) :
      Outline (calls ++ [.write config.deploymentId status error s t (.ok ())])

end Outline

section OfCourse

variable {σ : Service} {config : Config Seconds} {calls : List Call}

/-- A job that has started a teardown makes an idle call. -/
lemma Started.append {inst : Instance} {more : List Call} (h : Started config inst calls)
    (hidle : ∀ call ∈ more, call.Idle) : Started config inst (calls ++ more) := by
  cases h with
  | @intro marking result later sent marked idle =>
    have hsplit : marking ++ (sent.map Call.ofSent ++ .start inst result :: later) ++ more =
        marking ++ (sent.map Call.ofSent ++ .start inst result :: (later ++ more)) := by
      simp
    rw [hsplit]
    refine .intro marked fun call hcall => ?_
    rcases List.mem_append.mp hcall with hlater | hmore
    · exact idle call hlater
    · exact hidle call hmore

/-- Messages are idle. -/
lemma idle_sent (sent : List Sent) : ∀ call ∈ sent.map Call.ofSent, call.Idle := by
  intro call hcall
  obtain ⟨x, _, rfl⟩ := List.mem_map.mp hcall
  exact ⟨rfl, rfl⟩

/-- One call that is idle. -/
lemma idle_singleton {call : Call} (h : call.Idle) : ∀ c ∈ [call], c.Idle := by
  intro c hc
  exact List.mem_singleton.mp hc ▸ h

/-- The calls of a poll are idle. -/
lemma idle_poll (sent : List Sent) (run : RunHandle) (result : Except Failure RunStatus) :
    ∀ call ∈ sent.map Call.ofSent ++ [.poll run result], call.Idle := by
  exact List.forall_mem_append.mpr ⟨idle_sent sent, idle_singleton ⟨rfl, rfl⟩⟩

lemma Begun.started {run : RunHandle} (h : Begun σ config run calls) :
    ∃ inst, Started config inst calls := by
  obtain ⟨marked, _⟩ := h
  exact ⟨_, .intro marked fun _ hcall => nomatch hcall⟩

lemma Watched.started {run : RunHandle} (h : Watched σ config run calls) :
    ∃ inst, Started config inst calls := by
  induction h with
  | named begun _ =>
    obtain ⟨inst, hstarted⟩ := begun.started
    exact ⟨inst, hstarted.append (idle_singleton ⟨rfl, rfl⟩)⟩
  | pending _ _ ih =>
    obtain ⟨inst, hstarted⟩ := ih
    exact ⟨inst, hstarted.append (idle_poll _ _ _)⟩

lemma Achieved.started {run : RunHandle} (h : Achieved σ config run calls) :
    ∃ inst, Started config inst calls := by
  obtain ⟨watched, _⟩ := h
  obtain ⟨inst, hstarted⟩ := watched.started
  exact ⟨inst, hstarted.append (idle_poll _ _ _)⟩

lemma Broken.started {cause : Failure} (h : Broken σ config cause calls) :
    ∃ inst, Started config inst calls := by
  cases h with
  | start marked _ => exact ⟨_, .intro marked fun _ hcall => nomatch hcall⟩
  | source begun | limits begun _ =>
    obtain ⟨inst, hstarted⟩ := begun.started
    exact ⟨inst, hstarted.append (idle_singleton ⟨rfl, rfl⟩)⟩
  | wait watched _ _ _ =>
    obtain ⟨inst, hstarted⟩ := watched.started
    exact ⟨inst, hstarted.append (idle_poll _ _ _)⟩
  | record achieved =>
    obtain ⟨inst, hstarted⟩ := achieved.started
    exact ⟨inst, hstarted.append (idle_singleton ⟨rfl, rfl⟩)⟩

lemma Found.idle {d : Deployment} (h : Found config d calls) : ∀ call ∈ calls, call.Idle := by
  obtain ⟨_⟩ := h
  exact idle_singleton ⟨rfl, rfl⟩

lemma Located.idle {inst : Instance} (h : Located config inst calls) :
    ∀ call ∈ calls, call.Idle := by
  obtain ⟨found, _, _⟩ := h
  exact List.forall_mem_append.mpr ⟨found.idle, idle_singleton ⟨rfl, rfl⟩⟩

lemma Refused.idle {failure : Failure} (h : Refused config failure calls) :
    ∀ call ∈ calls, call.Idle := by
  cases h with
  | deployment => exact idle_singleton ⟨rfl, rfl⟩
  | location found _ => exact List.forall_mem_append.mpr ⟨found.idle, idle_singleton ⟨rfl, rfl⟩⟩
  | mark located => exact List.forall_mem_append.mpr ⟨located.idle, idle_singleton ⟨rfl, rfl⟩⟩

/-- Every course has an outline. -/
theorem Course.outline {phase : Phase Seconds} (h : Course σ config phase calls) :
    Outline config calls := by
  cases h with
  | reading => exact .idle fun _ hcall => nomatch hcall
  | locating found _ | skipped found _ => exact .idle found.idle
  | marking located => exact .idle located.idle
  | refused refused => exact .idle refused.idle
  | starting marked => exact .marked marked
  | naming begun => exact .started begun.started.choose_spec
  | waiting watched => exact .started watched.started.choose_spec
  | recording achieved => exact .started achieved.started.choose_spec
  | reconciling broken _ | interrupted broken _ => exact .started broken.started.choose_spec
  | stopped achieved committed => exact .ended achieved.started.choose_spec .stopped committed
  | failed broken _ committed => exact .ended broken.started.choose_spec (.failed _) committed
  | unreconciled broken _ =>
    exact .started (broken.started.choose_spec.append (idle_singleton ⟨rfl, rfl⟩))

/-- A job that has marked its deployment has committed the mark and nothing else. -/
lemma Marked.writes {inst : Instance} (h : Marked config inst calls) :
    ∃ s t, calls.filterMap Call.write? = [⟨config.deploymentId, .stopping, none, s, t⟩] := by
  obtain ⟨located, _⟩ := h
  rw [List.filterMap_append, filterMap_write?_idle located.idle]
  exact ⟨_, _, rfl⟩

/-- A job that has marked its deployment has not started a teardown. -/
lemma Marked.start? {inst : Instance} (h : Marked config inst calls) :
    calls.filterMap Call.start? = [] := by
  obtain ⟨located, _⟩ := h
  rw [List.filterMap_append, filterMap_start?_idle located.idle]
  rfl

/-- A job that has started a teardown has committed the mark and nothing else. -/
lemma Started.writes {inst : Instance} (h : Started config inst calls) :
    ∃ s t, calls.filterMap Call.write? = [⟨config.deploymentId, .stopping, none, s, t⟩] := by
  obtain ⟨marked, idle⟩ := h
  rename_i marking result later sent
  obtain ⟨s, t, hwrites⟩ := marked.writes
  refine ⟨s, t, ?_⟩
  rw [List.filterMap_append, hwrites, List.filterMap_append, filterMap_write?_idle (idle_sent sent),
    List.filterMap_cons_none rfl, filterMap_write?_idle idle]
  rfl

/-- A job that has started a teardown has started no other. -/
lemma Started.start? {inst : Instance} (h : Started config inst calls) :
    calls.filterMap Call.start? = [inst] := by
  obtain ⟨marked, idle⟩ := h
  rename_i marking result later sent
  have hstart : (Call.start inst result :: later).filterMap Call.start? =
      inst :: later.filterMap Call.start? := rfl
  rw [List.filterMap_append, marked.start?, List.filterMap_append,
    filterMap_start?_idle (idle_sent sent), hstart, filterMap_start?_idle idle]
  rfl

/-- A job commits nothing, the mark, or the mark and a terminal write. -/
lemma Outline.writes (h : Outline config calls) :
    calls.filterMap Call.write? = [] ∨ ∃ s t, ∃ last : List Write,
      calls.filterMap Call.write? = ⟨config.deploymentId, .stopping, none, s, t⟩ :: last ∧
      ∀ w ∈ last, w.id = config.deploymentId ∧ Terminal w.status w.error := by
  cases h with
  | idle idle => exact .inl (filterMap_write?_idle idle)
  | marked marked =>
    obtain ⟨s, t, hwrites⟩ := marked.writes
    exact .inr ⟨s, t, [], hwrites, fun w hw => nomatch hw⟩
  | started started =>
    obtain ⟨s, t, hwrites⟩ := started.writes
    exact .inr ⟨s, t, [], hwrites, fun w hw => nomatch hw⟩
  | @ended inst calls status error u v started terminal _ =>
    obtain ⟨s, t, hwrites⟩ := started.writes
    refine .inr ⟨s, t, [⟨config.deploymentId, status, error, u, v⟩], ?_, ?_⟩
    · rw [List.filterMap_append, hwrites]
      rfl
    · intro w hw
      rw [List.mem_singleton.mp hw]
      exact ⟨rfl, terminal⟩

end OfCourse

/-! ### An outline and the tables -/

/-- The tables let a job find its deployment running, and its instance. -/
def Locates (s : Store) (id : Int) (inst : Instance) : Prop :=
  ∃ d, s.getDeployment id = .ok d ∧ d.status.isStoppable = true ∧
    s.getInstance d.instanceId = .ok inst

/-- What a job that works alone on tables `s` commits and starts until the tables are `t`. -/
inductive Effect (id : Int) (s : Store) : List Write → List Instance → Store → Prop where
  | none : Effect id s [] [] s
  | marked {inst t} (located : Locates s id inst) (mark : Store.Commits id .stopping none s t) :
      Effect id s [⟨id, .stopping, none, s, t⟩] [] t
  | started {inst t} (located : Locates s id inst) (mark : Store.Commits id .stopping none s t) :
      Effect id s [⟨id, .stopping, none, s, t⟩] [inst] t
  | ended {inst t u status error} (located : Locates s id inst)
      (mark : Store.Commits id .stopping none s t) (terminal : Terminal status error)
      (committed : Store.Commits id status error t u) :
      Effect id s [⟨id, .stopping, none, s, t⟩, ⟨id, status, error, t, u⟩] [inst] u

section Effect

variable {config : Config Seconds} {calls : List Call} {s t : Store}

lemma Found.tells {d : Deployment} (h : Found config d calls) (htells : Tells s calls t) :
    t = s ∧ s.getDeployment config.deploymentId = .ok d := by
  obtain ⟨read⟩ := h
  obtain ⟨rfl, rfl⟩ := htells
  exact ⟨rfl, read⟩

lemma Located.tells {inst : Instance} (h : Located config inst calls) (htells : Tells s calls t) :
    t = s ∧ Locates s config.deploymentId inst := by
  obtain ⟨found, running, read⟩ := h
  obtain ⟨u, hfound, rfl, rfl⟩ := tells_append.mp htells
  obtain ⟨rfl, hread⟩ := found.tells hfound
  exact ⟨rfl, _, hread, running, read⟩

lemma Marked.tells {inst : Instance} (h : Marked config inst calls) (htells : Tells s calls t) :
    Locates s config.deploymentId inst := by
  obtain ⟨located, _⟩ := h
  obtain ⟨u, hlocated, _⟩ := tells_append.mp htells
  exact (located.tells hlocated).2

lemma Started.tells {inst : Instance} (h : Started config inst calls) (htells : Tells s calls t) :
    Locates s config.deploymentId inst := by
  obtain ⟨marked, _⟩ := h
  obtain ⟨u, hmarked, _⟩ := tells_append.mp htells
  exact marked.tells hmarked

/-- What a job has committed and started when it has worked alone on the tables. -/
theorem Outline.effect (h : Outline config calls) (htells : Tells s calls t) :
    Effect config.deploymentId s (calls.filterMap Call.write?) (calls.filterMap Call.start?) t := by
  cases h with
  | idle idle =>
    rw [filterMap_write?_idle idle, filterMap_start?_idle idle]
    obtain rfl := htells.eq_of_no_write (filterMap_write?_idle idle)
    exact .none
  | marked marked =>
    obtain ⟨_, _, hwrites⟩ := marked.writes
    obtain ⟨rfl, rfl, hcommits⟩ := htells.of_one_write hwrites
    rw [hwrites, marked.start?]
    exact .marked (marked.tells htells) hcommits
  | started started =>
    obtain ⟨_, _, hwrites⟩ := started.writes
    obtain ⟨rfl, rfl, hcommits⟩ := htells.of_one_write hwrites
    rw [hwrites, started.start?]
    exact .started (started.tells htells) hcommits
  | ended started terminal committed =>
    obtain ⟨u, hstarted, rfl, _, rfl⟩ := tells_append.mp htells
    obtain ⟨_, _, hwrites⟩ := started.writes
    obtain ⟨rfl, rfl, hcommits⟩ := hstarted.of_one_write hwrites
    rw [List.filterMap_append, hwrites, List.filterMap_append, started.start?]
    exact .ended (started.tells hstarted) hcommits terminal committed

/-- What is asked of every start of a job that works alone on tables `s`: it comes after the mark
of the job, and it is for the instance of the deployment. -/
def MarkedStart (s : Store) (id : Int) (past : List Call) (call : Call) : Prop :=
  ∀ inst, call.start? = some inst → Locates s id inst ∧
    ∃ mark ∈ past.filterMap Call.write?, mark.id = id ∧ mark.status = .stopping

lemma MarkedStart.of_start?_eq_none {id : Int} {past : List Call} {call : Call}
    (h : call.start? = none) : MarkedStart s id past call := by
  intro inst hstart
  rw [h] at hstart
  cases hstart

/-- Idle calls start nothing, whatever calls came before them. -/
lemma markedStart_idle {id : Int} {before : List Call → List Call}
    (hidle : ∀ call ∈ calls, call.Idle) :
    EachAfter (fun past => MarkedStart s id (before past)) calls :=
  .of_forall fun call hcall _ => .of_start?_eq_none (hidle call hcall).2

lemma Marked.starts {inst : Instance} (h : Marked config inst calls) :
    EachAfter (MarkedStart s config.deploymentId) calls := by
  obtain ⟨located, _⟩ := h
  exact EachAfter.snoc (markedStart_idle located.idle) (.of_start?_eq_none rfl)

lemma Started.starts {inst : Instance} (h : Started config inst calls) (htells : Tells s calls t) :
    EachAfter (MarkedStart s config.deploymentId) calls := by
  have hlocates := h.tells htells
  obtain ⟨marked, idle⟩ := h
  rename_i marking result later sent
  have hmark : MarkedStart s config.deploymentId (marking ++ sent.map Call.ofSent)
      (.start inst result) := by
    rintro _ ⟨⟩
    obtain ⟨u, v, hwrites⟩ := marked.writes
    refine ⟨hlocates, ⟨config.deploymentId, .stopping, none, u, v⟩, ?_, rfl, rfl⟩
    rw [List.filterMap_append, hwrites]
    exact List.mem_append_left _ List.mem_cons_self
  have hsplit : marking ++ (sent.map Call.ofSent ++ .start inst result :: later) =
      marking ++ sent.map Call.ofSent ++ [.start inst result] ++ later := by
    simp
  rw [hsplit]
  exact ((marked.starts.append (markedStart_idle (idle_sent sent))).snoc hmark).append
    (markedStart_idle idle)

/-- Every start of a job comes after its mark, and is for the instance of its deployment. -/
theorem Outline.starts (h : Outline config calls) (htells : Tells s calls t) :
    EachAfter (MarkedStart s config.deploymentId) calls := by
  cases h with
  | idle idle => exact markedStart_idle idle
  | marked marked => exact marked.starts
  | started started => exact started.starts htells
  | ended started _ _ =>
    obtain ⟨u, hstarted, _⟩ := tells_append.mp htells
    exact (started.starts hstarted).snoc (.of_start?_eq_none rfl)

end Effect

end StopJob

end Teardown
