import Settle.Proofs.Wait.Notes

/-!
# Submissions wait for their document

An attempt to make a document can be read as a look: a document has converged, a failure in passing
is not yet there, and any other failure is fatal (`Verdict.ofAttempt`). A submission then takes the
turns of the wait on these looks, one for one. A journal notes what is called and when. `Concluded`
pairs the outcome of the wait with the result of the attempts; `prepareOnce_concluded` is about one
turn, `prepareFrom_concluded` about the loops, and `Pace.submit_refines_await` adds the application.
-/

namespace Settle

variable {σ δ α β ω ε : Type}

def Verdict.ofAttempt (describe : Error → String) : Except Error δ → Verdict δ
  | .ok document => .converged document
  | .error e => if e.isTransient then .notYet (describe e) else .fatal e

/-! ## Journals -/

/-- A state with notes of the attempts to make a document and of its applications, the latest ones
first: when each took place, and what it gave or was given. -/
structure Journal (σ δ : Type) where
  state : σ
  attempts : List (Duration × Except Error δ)
  applications : List (Duration × δ)

namespace Journal

/-- The world with an empty journal. -/
def start (w : World σ) : World (Journal σ δ) := { w with cluster := ⟨w.cluster, [], []⟩ }

def bare (w : World (Journal σ δ)) : World σ := { w with cluster := w.cluster.state }

def beside (x : Action σ β) : Action (Journal σ δ) β := fun w =>
  let (b, v) := x (bare w)
  (b, { v with cluster := { w.cluster with state := v.cluster } })

def making (make : Action σ (Except Error δ)) : Action (Journal σ δ) (Except Error δ) := fun w =>
  let (r, v) := beside make w
  (r, { v with cluster := { v.cluster with attempts := (w.now, r) :: w.cluster.attempts } })

def applying (apply : δ → Action σ (Except Error α)) (document : δ) :
    Action (Journal σ δ) (Except Error α) := fun w =>
  beside (apply document) { w with
    cluster := { w.cluster with
      applications := (w.now, document) :: w.cluster.applications } }

/-- What the attempt noted last gave. -/
def last? (j : Journal σ δ) : Option (Except Error δ) := j.attempts.head?.map (·.2)

/-- No attempt is noted, or the last one failed in passing. -/
def Unsettled (j : Journal σ δ) : Prop := ∀ r ∈ j.last?, isPassing r = true

theorem making_last? (make : Action σ (Except Error δ)) (w : World (Journal σ δ)) :
    (making make w).2.cluster.last? = some (making make w).1 := rfl

theorem making_applications (make : Action σ (Except Error δ)) (w : World (Journal σ δ)) :
    (making make w).2.cluster.applications = w.cluster.applications := rfl

theorem unsettled_of_last? {j : Journal σ δ} {e : Error} (last : j.last? = some (.error e))
    (passing : e.isTransient = true) : j.Unsettled := by
  intro r hr
  rw [last] at hr
  cases hr
  exact passing

/-! ## A journal changes nothing -/

/-- The action does beside a journal what another one does without. -/
def Follows (y : Action (Journal σ δ) β) (x : Action σ β) : Prop :=
  ∀ w, ((y w).1, bare (y w).2) = x (bare w)

theorem making_follows (make : Action σ (Except Error δ)) : Follows (making make) make :=
  fun _ => rfl

theorem applying_follows (apply : δ → Action σ (Except Error α)) (document : δ) :
    Follows (applying apply document) (apply document) := fun _ => rfl

theorem Follows.map {y : Action (Journal σ δ) β} {x : Action σ β} (h : Follows y x)
    (f : β → α) : Follows (f <$> y) (f <$> x) := by
  intro w
  rw [Action.map_apply, Action.map_apply, ← h]

theorem bare_isView : World.IsView (bare (σ := σ) (δ := δ)) := ⟨fun _ _ => rfl, fun _ => rfl⟩

theorem awaitFrom_follows {y : Action (Journal σ δ) (Verdict α)} {x : Action σ (Verdict α)}
    (h : Follows y x) (p : Pace) (what : String) (start : Duration) (n : Nat) :
    Follows (p.awaitFrom what start y n) (p.awaitFrom what start x n) :=
  Pace.awaitFrom_follows bare_isView h p what start n

theorem prepareFrom_follows {y : Action (Journal σ δ) (Except Error α)}
    {x : Action σ (Except Error α)} (h : Follows y x) (p : Pace) (start : Duration) (n : Nat) :
    Follows (p.prepareFrom start y n) (p.prepareFrom start x n) :=
  Pace.prepareFrom_follows bare_isView h p start n

end Journal

open Journal (making applying)

namespace Pace

theorem tick_cancelled {p : Pace} {start : Duration} {w w' : World σ}
    (h : p.tick start w = (.cancelled, w')) : p.mustStop w' = true := by
  rw [tick_apply] at h
  split at h
  · cases h
  · split at h
    · cases h
    · rename_i hp
      cases h
      obtain ⟨heeds, cancelled⟩ := Action.pauseFor_false hp
      rw [mustStop, heeds, cancelled]
      rfl

/-- How the wait for a document ends in a world, what comes of the attempts to make it, and how both
depend on the attempt noted last. -/
inductive Concluded (p : Pace) (what : String) (describe : Error → String)
    (v : World (Journal σ δ)) : Outcome δ → Except Error δ → Prop
  | made {document : δ} (last : v.cluster.last? = some (.ok document)) :
    Concluded p what describe v (.success document) (.ok document)
  | exhausted {elapsed : Duration} {e : Error} (last : v.cluster.last? = some (.error e))
    (passing : e.isTransient = true) :
    Concluded p what describe v (.timedOut elapsed (describe e)) (.error e)
  | failed {e : Error} (last : v.cluster.last? = some (.error e)) (final : e.isTransient = false) :
    Concluded p what describe v (.fatal e) (.error e)
  | cancelled (stop : p.mustStop v = true) (unsettled : v.cluster.Unsettled) :
    Concluded p what describe v (.fatal (.cancelled what)) (.error (.cancelled "submission"))

/-- A turn of the wait and a turn of the submission end alike, or both go on from one world. -/
theorem prepareOnce_concluded (p : Pace) (what : String) (describe : Error → String)
    (start : Duration) (make : Action σ (Except Error δ)) {w : World (Journal σ δ)}
    (unsettled : w.cluster.Unsettled) :
    ∃ v, v.cluster.applications = w.cluster.applications ∧
      ((∃ o r,
        p.lookOnce what start (Verdict.ofAttempt describe <$> making make) w = (.ended o, v) ∧
        p.prepareOnce start (making make) w = (.ended r, v) ∧ p.Concluded what describe v o r) ∨
      ∃ e, p.lookOnce what start (Verdict.ofAttempt describe <$> making make) w =
          (.again (describe e), v) ∧
        p.prepareOnce start (making make) w = (.again e, v) ∧ e.isTransient = true ∧
        v.cluster.last? = some (.error e)) := by
  rw [lookOnce_eq_turn, prepareOnce_eq_turn]
  unfold turn
  rw [Action.map_apply]
  cases hs : p.mustStop w with
  | true => exact ⟨w, rfl, .inl ⟨_, _, rfl, rfl, .cancelled hs unsettled⟩⟩
  | false =>
    have last := Journal.making_last? make w
    have unapplied := Journal.making_applications make w
    generalize making make w = attempt at last unapplied ⊢
    obtain ⟨e | document, v⟩ := attempt
    · change v.cluster.last? = some (.error e) at last
      cases he : e.isTransient with
      | false =>
        refine ⟨v, unapplied, .inl ⟨.fatal e, .error e, ?_, ?_, .failed last he⟩⟩ <;>
          simp [judgeLook, judgeMaking, Verdict.ofAttempt, he]
      | true =>
        have kept := p.tick_cluster start v
        rcases ht : p.tick start v with ⟨tick, v'⟩
        rw [ht] at kept
        change v'.cluster = v.cluster at kept
        rw [← kept] at last
        refine ⟨v', by rw [kept]; exact unapplied, ?_⟩
        cases tick with
        | retry =>
          refine .inr ⟨e, ?_, ?_, he, last⟩ <;>
            simp [judgeLook, judgeMaking, Verdict.ofAttempt, he]
        | expired =>
          refine .inl ⟨.timedOut (v'.now - start) (describe e), .error e, ?_, ?_,
            .exhausted last he⟩ <;> simp [judgeLook, judgeMaking, Verdict.ofAttempt, he]
        | cancelled =>
          refine .inl ⟨_, _, ?_, ?_,
            .cancelled (tick_cancelled ht) (Journal.unsettled_of_last? last he)⟩
          · simp [judgeLook, Verdict.ofAttempt, he]
          · simp [judgeMaking, he]
    · exact ⟨v, unapplied, .inl ⟨_, _, rfl, rfl, .made last⟩⟩

/-! ## Whole runs -/

theorem prepareFrom_concluded (p : Pace) (what : String) (describe : Error → String)
    (start : Duration) (make : Action σ (Except Error δ)) (n : Nat) {w : World (Journal σ δ)}
    (unsettled : w.cluster.Unsettled) :
    ∃ o r v, v.cluster.applications = w.cluster.applications ∧
      p.awaitFrom what start (Verdict.ofAttempt describe <$> making make) n w = (o, v) ∧
      p.prepareFrom start (making make) n w = (r, v) ∧ p.Concluded what describe v o r := by
  induction n generalizing w with
  | zero =>
    obtain ⟨v, unapplied, ⟨o, r, wait, made, concluded⟩ | ⟨e, wait, made, passing, last⟩⟩ :=
      p.prepareOnce_concluded what describe start make unsettled
    · exact ⟨o, r, v, unapplied, by simp [awaitFrom, wait], by simp [prepareFrom, made], concluded⟩
    · exact ⟨.timedOut (v.now - start) (describe e), .error e, v, unapplied,
        by simp [awaitFrom, wait], by simp [prepareFrom, made], .exhausted last passing⟩
  | succ n ih =>
    obtain ⟨v, unapplied, ⟨o, r, wait, made, concluded⟩ | ⟨e, wait, made, passing, last⟩⟩ :=
      p.prepareOnce_concluded what describe start make unsettled
    · exact ⟨o, r, v, unapplied, by simp [awaitFrom, wait], by simp [prepareFrom, made], concluded⟩
    · obtain ⟨o, r, v', unapplied', wait', made', concluded⟩ :=
        ih (Journal.unsettled_of_last? last passing)
      exact ⟨o, r, v', unapplied'.trans unapplied, by simp [awaitFrom, wait, wait'],
        by simp [prepareFrom, made, made'], concluded⟩

theorem submit_apply (p : Pace) (make : Action σ (Except Error δ))
    (apply : δ → Action σ (Except Error α)) (w : World σ) :
    p.submit make apply w =
      match p.prepareFrom w.now make p.policy.pauses w with
      | (.error e, v) => (.error e, v)
      | (.ok document, v) => apply document v := by
  unfold submit
  simp only [Action.bind_apply, Action.get_apply]
  rcases p.prepareFrom w.now make p.policy.pauses w with ⟨_ | _, v⟩ <;> rfl

theorem submit_follows (p : Pace) (make : Action σ (Except Error δ))
    (apply : δ → Action σ (Except Error α)) :
    Journal.Follows (p.submit (making make) (applying apply)) (p.submit make apply) := by
  intro w
  have now : (Journal.bare w).now = w.now := rfl
  have made := Journal.prepareFrom_follows (Journal.making_follows make) p w.now p.policy.pauses w
  rw [submit_apply, submit_apply, now, ← made]
  rcases p.prepareFrom w.now (making make) p.policy.pauses w with ⟨e | document, v⟩
  · rfl
  · exact Journal.applying_follows apply document v

/-- A submission makes the attempts that the wait for its document makes, on the same instants and
with the same results. When the wait succeeds, and only then, the document is applied: once, on that
instant, and what this gives is the result. When the wait times out the last error is the result as
it was, and so is an error for which the wait is fatal; a cancelled wait is a cancelled submission.
The journal that shows this has no part in either run. -/
theorem submit_refines_await (p : Pace) (what : String) (describe : Error → String)
    (make : Action σ (Except Error δ)) (apply : δ → Action σ (Except Error α)) (w : World σ) :
    let waited := p.await what (Verdict.ofAttempt describe <$> making make) (Journal.start w)
    let submitted := p.submit (making make) (applying apply) (Journal.start w)
    (waited.1, Journal.bare waited.2) = p.await what (Verdict.ofAttempt describe <$> make) w ∧
    (submitted.1, Journal.bare submitted.2) = p.submit make apply w ∧
    submitted.2.cluster.attempts = waited.2.cluster.attempts ∧
    submitted.2.cluster.applications =
      (match waited.1 with
        | .success document => [(waited.2.now, document)]
        | .timedOut _ _ | .fatal _ => []) ∧
    ((∃ elapsed seen, waited.1 = .timedOut elapsed seen) ↔
      ∃ e, waited.2.cluster.last? = some (.error e) ∧ e.isTransient = true ∧
        submitted.1 = .error e) ∧
    match waited.1 with
    | .success document => (submitted.1, Journal.bare submitted.2) =
        apply document (Journal.bare waited.2)
    | .timedOut _ seen => ∃ e, waited.2.cluster.last? = some (.error e) ∧ seen = describe e ∧
        submitted = (.error e, waited.2)
    | .fatal cause =>
      (waited.2.cluster.last? = some (.error cause) ∧ cause.isTransient = false ∧
        submitted = (.error cause, waited.2)) ∨
      (waited.2.cluster.Unsettled ∧ p.mustStop waited.2 = true ∧ cause = .cancelled what ∧
        submitted = (.error (.cancelled "submission"), waited.2)) := by
  have unsettled : (Journal.start (δ := δ) w).cluster.Unsettled := nofun
  obtain ⟨o, r, v, unapplied, wait, made, concluded⟩ :=
    p.prepareFrom_concluded what describe (Journal.start w).now make p.policy.pauses unsettled
  change v.cluster.applications = [] at unapplied
  have looks := (Journal.making_follows make).map (Verdict.ofAttempt describe)
  intro waited submitted
  refine ⟨Journal.awaitFrom_follows looks p what w.now p.policy.pauses (Journal.start w),
    p.submit_follows make apply (Journal.start w), ?_⟩
  have waitedEq : waited = (o, v) := wait
  have submittedEq := p.submit_apply (making make) (applying apply) (Journal.start w)
  rw [made] at submittedEq
  rw [waitedEq, show submitted = _ from submittedEq]
  cases concluded with
  | @made document last =>
    refine ⟨rfl, ?_, ⟨nofun, ?_⟩, Journal.applying_follows apply document v⟩
    · show (v.now, document) :: v.cluster.applications = _
      rw [unapplied]
    · rintro ⟨e, failed, -⟩
      rw [last] at failed
      cases failed
  | exhausted last passing =>
    exact ⟨rfl, unapplied, ⟨fun _ => ⟨_, last, passing, rfl⟩, fun _ => ⟨_, _, rfl⟩⟩, _, last, rfl,
      rfl⟩
  | failed last final =>
    refine ⟨rfl, unapplied, ⟨nofun, ?_⟩, .inl ⟨last, final, rfl⟩⟩
    rintro ⟨e, failed, passing, -⟩
    rw [last] at failed
    cases failed
    rw [final] at passing
    cases passing
  | cancelled stop unsettled =>
    refine ⟨rfl, unapplied, ⟨nofun, ?_⟩, .inr ⟨unsettled, stop, rfl, rfl⟩⟩
    rintro ⟨e, -, passing, same⟩
    cases same
    cases passing

end Pace

end Settle
