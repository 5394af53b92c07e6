import Mathlib.Tactic.Lemma
import Teardown.Proofs.Github.Transcript
import Teardown.Proofs.Json.Display
import Teardown.Proofs.Workflow.Course

/-!
# What a poll makes of its answer

A poll compares two members of the description of its run with fixed words.  The members may hold
any value, which is compared in its display form; but the words begin with letters with which no
value but a text is displayed, so that a member is equal to a word only if it is a text that is equal
to the word (`strip_memberText_eq_iff`).

`poll_normalized` goes through the answers: a poll fails exactly for an exchange without a
description, and a description is pending, succeeded or failed by the texts of its two members
alone.  A failed run comes with a cause that is not empty, so that a wait never has to make one up.

A poll that fails is a failed call, with one exception: the failure of a reader whose stack the body
has used up is passed on.  However large the stack is, there are such bodies (`overflows_brackets`).
-/

namespace Teardown

namespace Github

/-! ### Words in members -/

/-- The member under a key is a text that is equal to a word, but for blank characters around it. -/
def Names (key word : String) (members : Json.Members) : Prop :=
  ∃ s, Json.member? key members = some (.str s) ∧ Text.strip s = word

/-- A member is equal to a word that leads no display form if it is a text that is equal to it. -/
lemma strip_memberText_eq_iff {default key word : String} {members : Json.Members}
    (hword : ¬ Json.Led word) (hempty : word ≠ "") (hdefault : Text.strip default ≠ word) :
    Text.strip (memberText default key members) = word ↔ Names key word members := by
  unfold memberText Names
  cases Json.member? key members with
  | none => simp [hdefault]
  | some v =>
    dsimp only
    split
    · rename_i hemptyish
      refine ⟨fun h => absurd h hdefault, ?_⟩
      rintro ⟨s, hv, rfl⟩
      cases hv
      have hs : s = "" := String.isEmpty_iff.mp hemptyish
      exact absurd (by rw [hs]; rfl) hempty
    · simp only [Json.strip_display_eq_iff hword, Option.some.injEq]

/-- A run has ended if its status is the text `completed`. -/
lemma completed_iff {members : Json.Members} :
    Completed members ↔ Names "status" "completed" members :=
  strip_memberText_eq_iff (Json.not_led (c := 'c') rfl (by decide)) (by decide) (by decide)

/-- A run has succeeded if its conclusion is the text `success`. -/
lemma succeeded_iff {members : Json.Members} :
    Succeeded members ↔ Names "conclusion" "success" members :=
  strip_memberText_eq_iff (Json.not_led (c := 's') rfl (by decide)) (by decide) (by decide)

/-! ### Causes -/

/-- The text holds a part. -/
def Holds (text part : String) : Prop :=
  ∃ before after, text = before ++ part ++ after

/-- A text holds its last part. -/
lemma holds_append (before part : String) : Holds (before ++ part) part :=
  ⟨before, "", String.append_empty.symm⟩

/-- What a text holds, every continuation of it holds. -/
lemma Holds.append {text part : String} (h : Holds text part) (more : String) :
    Holds (text ++ more) part := by
  obtain ⟨before, after, rfl⟩ := h
  exact ⟨before, after ++ more, String.append_assoc ..⟩

/-- What a text holds, a text that ends with it holds. -/
lemma Holds.prepend {text part : String} (h : Holds text part) (before : String) :
    Holds (before ++ text) part := by
  obtain ⟨start, after, rfl⟩ := h
  exact ⟨before ++ start, after, by simp only [String.append_assoc]⟩

/-- The conclusion of a run as its description has it, `unknown` if it is missing, null, false, zero
or empty. -/
def conclusionText (members : Json.Members) : String :=
  match Json.member? "conclusion" members with
  | none => "unknown"
  | some v => if v.isEmptyish then "unknown" else Text.strip v.display

/-- The address of the page of a run: that of its description, or else that of its handle, if it is
not missing, null, false, zero or empty. -/
def pageUrl? (run : RunHandle) (members : Json.Members) : Option Json :=
  [(Json.member? "html_url" members).getD .null, run.url].find? (!·.isEmptyish)

/-- The cause of a failed run names the run, its conclusion and its page. -/
structure Explains (run : RunHandle) (members : Json.Members) (text : String) : Prop where
  ne_empty : text ≠ ""
  names_run : Holds text run.id.display
  names_conclusion : Holds text (conclusionText members)
  names_page : ∀ url, pageUrl? run members = some url → Holds text url.display

lemma strip_memberText_conclusion (members : Json.Members) :
    Text.strip (memberText "unknown" "conclusion" members) = conclusionText members := by
  have hunknown : Text.strip "unknown" = "unknown" := by decide
  unfold memberText conclusionText
  cases Json.member? "conclusion" members with
  | none => exact hunknown
  | some v =>
    dsimp only
    split
    · exact hunknown
    · rfl

/-- The address in a cause is that of the page. -/
lemma eq_of_pageUrl? {run : RunHandle} {members : Json.Members} {url : Json}
    (h : pageUrl? run members = some url) :
    let own := (Json.member? "html_url" members).getD .null
    (if own.isEmptyish then run.url else own) = url ∧ url.isEmptyish = false := by
  intro own
  unfold pageUrl? at h
  have hurl : url.isEmptyish = false := by simpa using List.find?_some h
  refine ⟨?_, hurl⟩
  cases hown : own.isEmptyish with
  | true =>
    rw [List.find?_cons_of_neg (by simpa using hown)] at h
    have hmem := List.mem_of_find?_eq_some h
    exact (List.mem_singleton.mp hmem).symm
  | false =>
    rw [List.find?_cons_of_pos (by simpa using hown)] at h
    exact Option.some.inj h

/-- The cause of a failed run names the run, its conclusion and its page. -/
lemma explains_failureCause (run : RunHandle) (members : Json.Members) :
    let own := (Json.member? "html_url" members).getD .null
    Explains run members
      (failureCause run (conclusionText members) (if own.isEmptyish then run.url else own)) := by
  intro own
  have hrun : Holds ("workflow run " ++ run.id.display) run.id.display := holds_append ..
  have hconclusion : Holds ("workflow run " ++ run.id.display ++ " completed with conclusion '" ++
      conclusionText members) (conclusionText members) := holds_append ..
  refine ⟨fun hempty => ?_, ?_, ?_, fun url hurl => ?_⟩
  · unfold failureCause at hempty
    simp only [String.append_eq_empty_iff] at hempty
    exact absurd hempty.1.1.1.1.1 (by decide)
  · exact (((hrun.append _).append _).append _).append _
  · exact (hconclusion.append _).append _
  · obtain ⟨hpage, hemptyish⟩ := eq_of_pageUrl? hurl
    have hsuffix : Holds (" (" ++ url.display ++ ")") url.display := (holds_append ..).append _
    unfold failureCause
    rw [hpage, hemptyish]
    exact hsuffix.prepend _

/-! ### Descriptions -/

/-- An exchange that describes no run: there is no usable answer, or its body is empty or holds
another value than an object. -/
inductive Undescribed : Exchange → Prop where
  | unusable {x : Exchange} (unusable : Unusable x) : Undescribed x
  | empty {r : Response} (body : r.body = []) : Undescribed (.ok r)
  | notObject {r : Response} {v : Json} (json : r.json? = some v)
      (shape : ∀ members, v ≠ .obj members) : Undescribed (.ok r)

/-- An exchange that describes a run is not one of those. -/
lemma Describes.not_undescribed {x : Exchange} {members : Json.Members}
    (h : Describes x members) : ¬ Undescribed x := by
  obtain ⟨r, rfl, accepted, json⟩ := h
  rintro (⟨_ | _ | rejected | ⟨_, unreadable⟩ | deep⟩ | empty | ⟨json', shape⟩)
  · exact rejected accepted
  · rw [Response.json?_eq_some_iff, unreadable] at json
    cases json
  · rw [deep.json?_eq_none] at json
    cases json
  · rw [Response.json?_of_empty empty] at json
    cases json
  · rw [json] at json'
    exact shape members (Option.some.inj json').symm

/-- Every other exchange, in which the transport did nothing but answer or fail, describes a
run. -/
lemma describes_or_undescribed {x : Exchange} (hordinary : Ordinary x) :
    (∃ members, Describes x members) ∨ Undescribed x := by
  rcases x with (_ | _ | failure) | r
  · exact .inr (.unusable .timedOut)
  · exact .inr (.unusable .transport)
  · exact absurd rfl (hordinary failure)
  by_cases accepted : r.Accepted
  · cases hread : r.read with
    | ok v =>
      have hjson := Response.json?_eq_some_iff.mpr hread
      cases v with
      | obj members => exact .inl ⟨members, r, rfl, accepted, hjson⟩
      | _ => exact .inr (.notObject hjson fun _ => Json.noConfusion)
    | error fault =>
      cases fault with
      | deepList => exact .inr (.unusable (.overflowing (.list accepted hread)))
      | deepObject => exact .inr (.unusable (.overflowing (.object accepted hread)))
      | malformed =>
        by_cases body : r.body = []
        · exact .inr (.empty body)
        · exact .inr (.unusable (.malformed body hread))
  · exact .inr (.unusable (.rejected accepted))

section Status

variable {a : Account} {run : RunHandle} {x : Exchange}

/-- A description is read. -/
lemma Describes.statusOf {members : Json.Members} (h : Describes x members) :
    a.statusOf run x = .ok (runStatus run members) := by
  unfold Account.statusOf
  rw [h.payload]
  rfl

/-- Without a description, a poll fails: with the failure of its reader, or as a call, with the run
that it asked for. -/
lemma Undescribed.statusOf (h : Undescribed x) (hordinary : Ordinary x) :
    ∃ failure, a.statusOf run x = .error failure ∧ (Overflows x failure ∨
      (∀ other, ¬ Overflows x other) ∧ IsCallError failure (some run.id)) := by
  unfold Account.statusOf
  by_cases hunusable : Unusable x
  · obtain ⟨failure, hpayload, hreason⟩ := hunusable.payload (a.runState run.id)
    rw [hpayload]
    refine ⟨failure, rfl, hreason.imp_right fun ⟨hroom, fault, hfailure⟩ => ⟨hroom, ?_⟩⟩
    rw [hfailure]
    exact Request.isCallError ..
  · have hroom : ∀ other, ¬ Overflows x other := fun _ hover => hunusable (.overflowing hover)
    obtain ⟨r, rfl, accepted, hpayload⟩ :=
      payload_of_usable hordinary hunusable (a.runState run.id)
    rw [hpayload]
    cases hjson : r.json? with
    | none => exact ⟨_, rfl, .inr ⟨hroom, _, rfl, rfl⟩⟩
    | some v =>
      cases v with
      | obj members => exact absurd h (Describes.not_undescribed ⟨r, rfl, accepted, hjson⟩)
      | _ => exact ⟨_, rfl, .inr ⟨hroom, _, rfl, rfl⟩⟩

end Status

/-! ### The theorem -/

/-- What a poll makes of its exchange. -/
structure Normalized (run : RunHandle) (x : Exchange) (result : Except Failure RunStatus) :
    Prop where
  /-- The poll fails only if no run is described. -/
  fails_iff : (∃ failure, result = .error failure) ↔ Undescribed x
  /-- The failure of a reader whose stack is used up is passed on. -/
  overflowed : ∀ failure, Overflows x failure → result = .error failure
  /-- All other failures are failed calls, and carry the run. -/
  failure : (∀ failure, ¬ Overflows x failure) →
    ∀ failure, result = .error failure → IsCallError failure (some run.id)
  succeeded_iff : result = .ok .succeeded ↔ ∃ members, Describes x members ∧
    Names "status" "completed" members ∧ Names "conclusion" "success" members
  failed_iff : (∃ cause, result = .ok (.failed cause)) ↔ ∃ members, Describes x members ∧
    Names "status" "completed" members ∧ ¬ Names "conclusion" "success" members
  pending_iff : result = .ok .pending ↔ ∃ members, Describes x members ∧
    ¬ Names "status" "completed" members
  /-- A failed run comes with a cause, and a wait reports this cause. -/
  explained : ∀ cause, result = .ok (.failed cause) → ∃ members text, Describes x members ∧
    Explains run members text ∧ cause = some text ∧ Wait.causeOf run cause = text

/-- Each state of a run, with what its description says. -/
inductive Told (run : RunHandle) (members : Json.Members) : RunStatus → Prop where
  | pending (running : ¬ Names "status" "completed" members) : Told run members .pending
  | succeeded (completed : Names "status" "completed" members)
      (success : Names "conclusion" "success" members) : Told run members .succeeded
  | failed {text : String} (completed : Names "status" "completed" members)
      (failure : ¬ Names "conclusion" "success" members) (explains : Explains run members text) :
      Told run members (.failed (some text))

/-- The state of a run is told by its description. -/
lemma told_runStatus (run : RunHandle) (members : Json.Members) :
    Told run members (runStatus run members) := by
  unfold runStatus
  by_cases completed : Completed members
  · have hstatus : Text.strip (memberText "" "status" members) = "completed" := completed
    rw [if_pos hstatus]
    dsimp only
    by_cases success : Succeeded members
    · have hconclusion : Text.strip (memberText "unknown" "conclusion" members) = "success" :=
        success
      rw [if_pos hconclusion]
      exact .succeeded (completed_iff.mp completed) (succeeded_iff.mp success)
    · have hconclusion : Text.strip (memberText "unknown" "conclusion" members) ≠ "success" :=
        success
      rw [if_neg hconclusion, strip_memberText_conclusion]
      exact .failed (completed_iff.mp completed) (fun h => success (succeeded_iff.mpr h))
        (explains_failureCause run members)
  · have hstatus : Text.strip (memberText "" "status" members) ≠ "completed" := completed
    rw [if_neg hstatus]
    exact .pending fun h => completed (completed_iff.mpr h)

/-- The result of a described run by its description. -/
lemma Describes.normalized {run : RunHandle} {x : Exchange} {members : Json.Members}
    {status : RunStatus} (h : Describes x members) (told : Told run members status) :
    Normalized run x (.ok status) := by
  have hdescribed : ∀ {p : Json.Members → Prop},
      (∃ members, Describes x members ∧ p members) → p members := by
    rintro p ⟨members', hmembers, hp⟩
    exact h.unique hmembers ▸ hp
  have hfails : (∃ failure, (.ok status : Except Failure RunStatus) = .error failure) ↔
      Undescribed x :=
    ⟨nofun, fun hundescribed => absurd hundescribed h.not_undescribed⟩
  have hroom : ∀ failure, Overflows x failure →
      (.ok status : Except Failure RunStatus) = .error failure := fun _ hover =>
    absurd (.unusable (.overflowing hover)) h.not_undescribed
  cases told with
  | pending running =>
    exact {
      fails_iff := hfails
      overflowed := hroom
      failure := fun _ => nofun
      succeeded_iff := ⟨nofun, fun hex => absurd (hdescribed hex).1 running⟩
      failed_iff := ⟨nofun, fun hex => absurd (hdescribed hex).1 running⟩
      pending_iff := ⟨fun _ => ⟨members, h, running⟩, fun _ => rfl⟩
      explained := nofun }
  | succeeded completed success =>
    exact {
      fails_iff := hfails
      overflowed := hroom
      failure := fun _ => nofun
      succeeded_iff := ⟨fun _ => ⟨members, h, completed, success⟩, fun _ => rfl⟩
      failed_iff := ⟨nofun, fun hex => absurd success (hdescribed hex).2⟩
      pending_iff := ⟨nofun, fun hex => absurd completed (hdescribed hex)⟩
      explained := nofun }
  | @failed text completed failure explains =>
    exact {
      fails_iff := hfails
      overflowed := hroom
      failure := fun _ => nofun
      succeeded_iff := ⟨nofun, fun hex => absurd (hdescribed hex).2 failure⟩
      failed_iff := ⟨fun _ => ⟨members, h, completed, failure⟩, fun _ => ⟨_, rfl⟩⟩
      pending_iff := ⟨nofun, fun hex => absurd completed (hdescribed hex)⟩
      explained := by
        rintro cause hcause
        cases hcause
        exact ⟨members, text, h, explains, rfl, Wait.causeOf_eq_self explains.ne_empty⟩ }

/-- Every ordinary exchange is normalized. -/
lemma statusOf_normalized (a : Account) (run : RunHandle) {x : Exchange}
    (hordinary : Ordinary x) : Normalized run x (a.statusOf run x) := by
  rcases describes_or_undescribed hordinary with ⟨members, hdescribes⟩ | hundescribed
  · rw [hdescribes.statusOf]
    exact hdescribes.normalized (told_runStatus run members)
  · obtain ⟨failure, hstatus, hreason⟩ := @Undescribed.statusOf a run x hundescribed hordinary
    have hnone : ∀ {p : Json.Members → Prop}, ¬ ∃ members, Describes x members ∧ p members :=
      fun ⟨_, hdescribes, _⟩ => hdescribes.not_undescribed hundescribed
    rw [hstatus]
    exact {
      fails_iff := ⟨fun _ => hundescribed, fun _ => ⟨failure, rfl⟩⟩
      overflowed := fun other hover => by
        rcases hreason with hover' | ⟨hroom, _⟩
        · rw [hover.unique hover']
        · exact absurd hover (hroom other)
      failure := by
        rintro hroom _ ⟨⟩
        exact (hreason.resolve_left (hroom failure)).2
      succeeded_iff := ⟨nofun, fun hex => absurd hex hnone⟩
      failed_iff := ⟨nofun, fun hex => absurd hex hnone⟩
      pending_iff := ⟨nofun, fun hex => absurd hex hnone⟩
      explained := nofun }

/-- A poll sends one message and normalizes what comes of it, whatever the answer and its body are,
as long as the transport fails in ways that it knows.  If the address of the run cannot be formed,
then nothing is sent, and the failure says so. -/
theorem poll_normalized {ρ : Type} (a : Account) (transport : Transport (StateM ρ))
    (run : RunHandle) (w : ρ) :
    let polled := (a.poll transport run).run w
    (∀ failure, a.message (a.runState run.id) = .error failure → polled = (.error failure, w)) ∧
    ∀ m, a.message (a.runState run.id) = .ok m →
      let sent := (transport.send m).run w
      polled.2 = sent.2 ∧ (Ordinary sent.1 → Normalized run sent.1 polled.1) := by
  intro polled
  refine ⟨fun failure hfailure => ?_, fun m hm => ?_⟩
  · simp only [polled, Account.poll, Account.exchange, hfailure]
    rfl
  · intro sent
    have hpolled : polled = (a.statusOf run sent.1, sent.2) := by
      simp only [polled, Account.poll, Account.exchange, hm]
      rfl
    rw [hpolled]
    exact ⟨rfl, statusOf_normalized a run⟩

/-- The description of a run that was cancelled, without a page. -/
def cancelledDescription : Exchange :=
  answered (.obj [("status", .str " completed "), ("conclusion", .str "cancelled")])

/-- A run that was cancelled is failed, and the cause names the page of its handle. -/
theorem cancelled_normalized :
    let run : RunHandle := ⟨.number 7, .str "page"⟩
    let polled := (hasty.poll rehearsal run).run [cancelledDescription]
    (∃ m, hasty.message (hasty.runState run.id) = .ok m) ∧ Ordinary cancelledDescription ∧
      Normalized run cancelledDescription polled.1 ∧ polled.2 = [] ∧
      polled.1.toOption = some (.failed
        (some "workflow run 7 completed with conclusion 'cancelled' (page)")) := by
  intro run polled
  obtain ⟨m, hm⟩ : ∃ m, hasty.message (hasty.runState (.number 7)) = .ok m := ⟨_, rfl⟩
  have hordinary : Ordinary cancelledDescription := fun _ => nofun
  obtain ⟨hstate, hnormalized⟩ :=
    (poll_normalized hasty rehearsal run [cancelledDescription]).2 m hm
  refine ⟨⟨m, hm⟩, hordinary, hnormalized hordinary, hstate, ?_⟩
  decide +kernel

/-- The poll of a run that is answered with too many brackets fails, but not as a call. -/
theorem deepAnswer_uncalled :
    ((hasty.poll rehearsal ⟨.number 7, .str "page"⟩).run [deepAnswer]).1 =
        .error (overflow "array") ∧
      (overflow "array").kind = "RecursionError" ∧
      ¬ IsCallError (overflow "array") (some (.number 7)) := by
  have hpolled : ∀ x, ((hasty.poll rehearsal ⟨.number 7, .str "page"⟩).run [x]).1 =
      hasty.statusOf ⟨.number 7, .str "page"⟩ x := fun _ => rfl
  refine ⟨?_, rfl, ?_⟩
  · rw [hpolled, Account.statusOf, overflows_deepAnswer.payload]
    rfl
  · rintro ⟨_, hcall, _⟩
    cases hcall

end Github

end Teardown
