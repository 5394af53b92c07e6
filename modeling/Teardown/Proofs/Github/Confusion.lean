import Mathlib.Tactic.Lemma
import Teardown.Proofs.Github.Title
import Teardown.Proofs.Github.Transcript
import Teardown.Store.Change

/-!
# Instances whose runs are confused

The cleanup workflow titles its runs `cleanup` and the slug of the instance.  A start takes the run
of another instance for its own when the title of that run mentions its slug, and `Confused` lists
the three ways in which this happens: the slug stands in the other slug as a whole token, it is the
word `cleanup`, or it begins with this word and goes on with tokens of the other slug.

`mentions_cleanupTitle_iff` says that there is no fourth way, and `confused_iff_of_isToken` that
slugs of token characters are safe, but for the instance that is itself called `cleanup`.  The
tables, however, admit any text as a slug: `demo` and `demo/eu` may stand next to each other, and a
run for the second is located by a start for the first.
-/

namespace Teardown.Github

/-- The title of the cleanup run for the instance with a slug. -/
def cleanupTitle (slug : String) : String :=
  "cleanup " ++ Text.strip slug

/-- A start for the first slug takes a run for the second one for its own. -/
inductive Confused (slug other : List Char) : Prop where
  /-- The slug is a token of the other slug, as `demo` is of `demo/eu`. -/
  | within {before after : List Char} (stands : Stands slug other before after)
  /-- The slug is the fixed word of the title. -/
  | word (eq_word : slug = "cleanup".toList)
  /-- The slug begins with the fixed word, and the other slug goes on like it. -/
  | across {back after : List Char} (ne_nil : back ≠ [])
      (slug_eq : slug = "cleanup ".toList ++ back) (other_eq : other = back ++ after)
      (free : isFree after.head? = true)

/-! ### The fixed word -/

/-- The fixed word is made of token characters. -/
lemma isToken_cleanup : ∀ c ∈ "cleanup".toList, Text.isToken c = true :=
  List.all_eq_true.mp (by decide)

lemma toList_cleanup : "cleanup ".toList = "cleanup".toList ++ [' '] := by decide

section Words

variable {slug before after : List Char}

/-- Of the texts that are not blank at their ends, only the fixed word stands in the words of the
title. -/
lemma eq_cleanup_of_stands (h : Stands slug "cleanup ".toList before after) (hne : slug ≠ [])
    (hhead : ∀ c, slug.head? = some c → Text.isBlank c = false)
    (hlast : ∀ c, slug.getLast? = some c → Text.isBlank c = false) : slug = "cleanup".toList := by
  rw [toList_cleanup] at h
  rcases h.cases_append with ⟨_, hinside⟩ | ⟨_, hbehind⟩ | hreaches
  · exact hinside.eq_of_isToken isToken_cleanup
  · obtain ⟨hsplit, _, _⟩ := hbehind
    obtain ⟨c, cs, rfl⟩ := List.exists_cons_of_ne_nil hne
    -- The only character behind the word is blank.
    have hmem : c ∈ [' '] := by
      rw [hsplit]
      simp
    rw [List.mem_singleton.mp hmem] at hhead
    cases hhead ' ' rfl
  · obtain ⟨⟨front, back, _, hback, rfl, _, hsplit⟩, _, _⟩ := hreaches
    have hend : (front ++ back).getLast? = some (back.getLast hback) := by
      rw [List.getLast?_append_of_ne_nil _ hback, List.getLast?_eq_some_getLast hback]
    have hmem : back.getLast hback ∈ [' '] := by
      rw [hsplit]
      exact List.mem_append_left _ (List.getLast_mem hback)
    have hblank := hlast _ hend
    rw [List.mem_singleton.mp hmem] at hblank
    cases hblank

/-- A slug that reaches from the words of the title into the other slug begins with the words. -/
lemma Reaches.confused {other : List Char}
    (h : Reaches slug "cleanup ".toList other before after) : Confused slug other := by
  obtain ⟨⟨front, back, hfront, hback, rfl, hwords, rfl⟩, hbefore, hafter⟩ := h
  have hnil : before = [] := by
    obtain ⟨front', c, rfl⟩ := (List.eq_nil_or_concat' front).resolve_left hfront
    rw [toList_cleanup, ← List.append_assoc] at hwords
    obtain ⟨hword, _⟩ := List.append_inj' hwords rfl
    refine eq_nil_of_isFree_getLast? (fun d hd => isToken_cleanup d ?_) hbefore
    rw [hword]
    exact List.mem_append_left _ hd
  rw [hnil, List.nil_append] at hwords
  exact .across hback (by rw [hwords]) rfl hafter

end Words

/-! ### Confused slugs -/

/-- A title mentions a stripped slug exactly if the slug is confused with that of the title. -/
theorem mentions_cleanupTitle_iff {slug other : String} (hslug : Text.strip slug ≠ "") :
    mentions (Text.strip slug) (cleanupTitle other) = true ↔
      Confused (Text.strip slug).toList (Text.strip other).toList := by
  rw [mentions_iff, cleanupTitle, String.toList_append]
  have hfree : isFree "cleanup ".toList.getLast? = true := by decide
  constructor
  · rintro ⟨before, after, hstands⟩
    rcases hstands.cases_append with ⟨_, hinside⟩ | ⟨_, hbehind⟩ | hreaches
    · have hne : (Text.strip slug).toList ≠ [] := fun hnil =>
        hslug (String.toList_injective hnil)
      exact .word (eq_cleanup_of_stands hinside hne (fun _ => Text.head?_strip)
        fun _ => Text.getLast?_strip)
    · exact .within hbehind
    · exact hreaches.confused
  · rintro (⟨hstands⟩ | hword | ⟨_, hreach, hother, hafter⟩)
    · exact ⟨_, _, hstands.append hfree⟩
    · rw [hword, toList_cleanup]
      exact ⟨[], ' ' :: (Text.strip other).toList, List.append_assoc .., rfl, rfl⟩
    · rw [hreach, hother]
      exact ⟨[], _, (List.append_assoc ..).symm, rfl, hafter⟩

/-- A slug of token characters is confused with another one only if they are the same, or if it is
the fixed word. -/
theorem confused_iff_of_isToken {slug other : List Char}
    (hslug : ∀ c ∈ slug, Text.isToken c = true) (hother : ∀ c ∈ other, Text.isToken c = true) :
    Confused slug other ↔ slug = other ∨ slug = "cleanup".toList := by
  constructor
  · rintro (⟨hstands⟩ | hword | ⟨_, hreach, _, _⟩)
    · exact .inl (hstands.eq_of_isToken hother)
    · exact .inr hword
    · have hblank := hslug ' ' (by rw [hreach, toList_cleanup]; simp)
      cases hblank
  · rintro (rfl | hword)
    · exact .within (Stands.self slug)
    · exact .word hword

/-! ### Confused runs -/

/-- The run that a start has located is in the last list that it was sent, and the title of the run
mentions the slug. -/
lemma StartTranscript.located {a : Account} {slug : String} {run : RunHandle} {sent : List Sent}
    (h : StartTranscript a slug run sent) :
    ∃ earlier last runs found, sent = earlier ++ [last] ∧ Lists last.2 runs ∧ found ∈ runs ∧
      run = ⟨found.id, found.url⟩ ∧ mentions slug found.title = true := by
  obtain ⟨_, _, _, _, _, _, hit, fresh, _⟩ := h
  exact ⟨_ :: _ :: _, _, _, _, rfl, hit, by simp, rfl, fresh.2⟩

/-- Whatever the remote service answers, a start that takes the run of another instance for its own
has a slug that is confused with the slug of that instance, and the title of a run mentions every
slug that is confused with the one it is titled for. -/
theorem start_confused {ρ : Type} (env : Environment ρ) (send : Message → StateM ρ Exchange)
    (a : Account) (inst : Instance) (other : String) (queue : Queue) (store : Store) (outside : ρ)
    (hslug : Text.strip inst.slug ≠ "") :
    (mentions (Text.strip inst.slug) (cleanupTitle other) = true ↔
      Confused (Text.strip inst.slug).toList (Text.strip other).toList) ∧
    let started := (a.start (transport env send) inst).run (World.opening queue store outside)
    ∀ run, started.1 = .ok run → ∃ earlier last runs found,
      messages (started.2.record.map Event.call) = earlier ++ [last] ∧ Lists last.2 runs ∧
      found ∈ runs ∧ run = ⟨found.id, found.url⟩ ∧ (found.title = cleanupTitle other →
        Confused (Text.strip inst.slug).toList (Text.strip other).toList) := by
  refine ⟨mentions_cleanupTitle_iff hslug, ?_⟩
  intro started run hrun
  obtain ⟨sent, hservice, hscene⟩ :=
    start_service env send a inst (World.opening queue store outside)
  obtain ⟨earlier, last, runs, found, hsent, hlists, hmem, hhandle, hmentions⟩ :=
    (hservice run hrun).located
  have hrecord : messages (started.2.record.map Event.call) = sent := by
    have hcalls : started.2.record = (sent.map Call.ofSent).map (Event.mk 0) :=
      congrArg Scene.record hscene
    rw [hcalls, List.map_map]
    exact (congrArg messages (List.map_id _)).trans (messages_sent sent)
  refine ⟨earlier, last, runs, found, hrecord.trans hsent, hlists, hmem, hhandle, ?_⟩
  intro htitle
  rw [htitle] at hmentions
  exact (mentions_cleanupTitle_iff hslug).mp hmentions

/-! ### Two instances that are confused -/

/-- An instance with the slug `demo`. -/
def demo : Instance where
  id := 1
  slug := "demo"
  createdAt := ⟨2020, 1, 2, 3, 4, 5, 0, none⟩

/-- No runs, an accepted dispatch, and a run for the instance `demo/eu`. -/
def confusingAnswers : List Exchange :=
  [answered (.obj [("workflow_runs", .arr [])]), noContent,
    answered (.obj [("workflow_runs",
      .arr [.obj [("id", .int 7), ("display_title", .str "cleanup demo/eu")]])])]

/-- The start of `demo` with these answers. -/
def startOfDemo : Except Failure RunHandle × World (List Exchange) :=
  (hasty.start (transport calm rehearsed) demo).run
    (World.opening { history := 1 } oneRunning confusingAnswers)

/-- A start for `demo` locates the run for `demo/eu`: the two slugs are confused. -/
theorem demo_confused :
    Text.strip demo.slug ≠ "" ∧
      Confused (Text.strip demo.slug).toList (Text.strip "demo/eu").toList ∧
      ∃ run, startOfDemo.1 = .ok run ∧ run.id = .number 7 ∧ ∃ earlier last runs found,
        messages (startOfDemo.2.record.map Event.call) = earlier ++ [last] ∧ Lists last.2 runs ∧
        found ∈ runs ∧ run = ⟨found.id, found.url⟩ ∧ (found.title = cleanupTitle "demo/eu" →
          Confused (Text.strip demo.slug).toList (Text.strip "demo/eu").toList) := by
  have hslug : Text.strip demo.slug ≠ "" := by decide +kernel
  have hmentions : mentions (Text.strip demo.slug) (cleanupTitle "demo/eu") = true := by
    decide +kernel
  have hany : (startOfDemo.1.toOption.any (·.id == .number 7)) = true := by decide +kernel
  obtain ⟨run, hrun, hid⟩ := (Option.any_eq_true ..).mp hany
  have hok : startOfDemo.1 = .ok run := by
    cases hstarted : startOfDemo.1 with
    | error failure =>
      rw [hstarted] at hrun
      cases hrun
    | ok run' =>
      rw [hstarted] at hrun
      exact congrArg Except.ok (Option.some.inj hrun)
  obtain ⟨hconfused, hlocated⟩ := start_confused calm rehearsed hasty demo "demo/eu"
    { history := 1 } oneRunning confusingAnswers hslug
  refine ⟨hslug, hconfused.mp hmentions, run, hok, beq_iff_eq.mp hid, ?_⟩
  unfold startOfDemo at hok ⊢
  exact hlocated run hok

/-- The tables admit instances whose runs are confused: `demo` and `demo/eu`. -/
theorem admitted_confused :
    ¬ ∀ (now : String) (a b : Store.InstanceDraft) (slug other : String), a.slug = some slug →
      b.slug = some other →
      ((Store.empty.insertInstance now a).bind (·.insertInstance now b)).isSome →
      slug ≠ other → Text.strip slug ≠ "" → Text.strip other ≠ "" →
      mentions (Text.strip slug) (cleanupTitle other) = false := by
  intro h
  have hsilent := h "2020-01-02 03:04:05" ⟨1, some "demo", .omitted⟩ ⟨2, some "demo/eu", .omitted⟩
    "demo" "demo/eu" rfl rfl (by decide +kernel) (by decide) (by decide +kernel)
    (by decide +kernel)
  have hmentions : mentions (Text.strip "demo") (cleanupTitle "demo/eu") = true := by
    decide +kernel
  rw [hmentions] at hsilent
  cases hsilent

end Teardown.Github
