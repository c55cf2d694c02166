import BtPlatform.Gap.Answered

/-!
# Runs of the adapter

Where the adapter, its timers and its own messages stand in each phase of the two
transitions, and that every input that meets the condition keeps them there.
-/

namespace Adapter

open List

variable {g : Gap}

theorem Gap.allStarted_iff :
    g.allStarted = true ↔ ∀ p, g.config.isEnabled p = true → g.startStatus p = true := by
  unfold Gap.allStarted
  rw [all_eq_true]
  constructor
  · intro h p hp
    have hstarted := h p p.mem_all
    rw [hp] at hstarted
    exact hstarted
  · intro h p _
    cases hp : g.config.isEnabled p with
    | false => rfl
    | true => exact h p hp

theorem Gap.allStopped_iff :
    g.allStopped = true ↔
      ∀ p, g.config.isEnabled p = true → p ≠ .btAm → g.stopStatus p = true := by
  unfold Gap.allStopped
  rw [all_eq_true]
  constructor
  · intro h p hp hne
    have hstopped := h p p.mem_all
    simp only [hp, hne, decide_false, Bool.not_true, Bool.or_false, Bool.false_or] at hstopped
    exact hstopped
  · intro h p _
    cases hp : g.config.isEnabled p with
    | false => rfl
    | true =>
        by_cases hne : p = .btAm
        · simp [hne]
        · simp [h p hp hne]

/-- What is not all is wanting somewhere. -/
theorem Gap.exists_not_started (h : g.allStarted = false) :
    ∃ p, g.config.isEnabled p = true ∧ g.startStatus p = false := by
  by_contra hnone
  refine absurd (Gap.allStarted_iff.2 ?_) (by rw [h]; exact Bool.false_ne_true)
  intro p hp
  by_contra hp'
  exact hnone ⟨p, hp, eq_false_of_ne_true hp'⟩

theorem Gap.exists_not_stopped (h : g.allStopped = false) :
    ∃ p, g.config.isEnabled p = true ∧ p ≠ .btAm ∧ g.stopStatus p = false := by
  by_contra hnone
  refine absurd (Gap.allStopped_iff.2 ?_) (by rw [h]; exact Bool.false_ne_true)
  intro p hp hne
  by_contra hp'
  exact hnone ⟨p, hp, hne, eq_false_of_ne_true hp'⟩

theorem mem_stopMessages {p : ProfileId} :
    Message.stop p ∈ g.stopMessages ↔
      g.config.isEnabled p = true ∧ g.startStatus p = true ∧ p ≠ .btAm := by
  unfold Gap.stopMessages
  simp [p.mem_all, and_assoc]

theorem answers_stopMessages (g : Gap) : answers g.stopMessages = [] := by
  unfold answers Gap.stopMessages
  simp

theorem ownMessages_stopMessages (g : Gap) : ownMessages g.stopMessages = [] := by
  unfold ownMessages Gap.stopMessages
  simp

theorem answers_startMessages : answers g.startMessages = [] := by
  unfold answers Gap.startMessages
  simp

theorem ownMessages_startMessages (g : Gap) : ownMessages g.startMessages = [] := by
  unfold ownMessages Gap.startMessages
  simp

theorem answers_append (xs ys : List Message) : answers (xs ++ ys) = answers xs ++ answers ys :=
  filterMap_append

theorem ownMessages_append (xs ys : List Message) :
    ownMessages (xs ++ ys) = ownMessages xs ++ ownMessages ys := filterMap_append

theorem answers_disableMessages (g : Gap) : answers g.disableMessages = [] := by
  unfold Gap.disableMessages
  cases g.config.isEnabled .pan <;> cases g.config.isEnabled .hid <;> rfl

theorem ownMessages_disableMessages (g : Gap) : ownMessages g.disableMessages = [] := by
  unfold Gap.disableMessages
  cases g.config.isEnabled .pan <;> cases g.config.isEnabled .hid <;> rfl

theorem mem_disableMessages {message : Message} (h : message ∈ g.disableMessages) :
    message = .panDisable ∨ message = .hidDisable := by
  unfold Gap.disableMessages at h
  obtain h | h := mem_append.1 h
  · split at h
    · exact .inl (mem_singleton.1 h)
    · cases h
  · split at h
    · exact .inr (mem_singleton.1 h)
    · cases h

namespace Session

/-- Where everything stands in each phase. -/
structure Sound (s : Session) : Prop where
  off : s.gap.state = .off → s.enabling = none ∧ s.disabling = none
  on : s.gap.state = .on → s.enabling ≠ some .turningOn ∧ s.disabling ≠ some .turningOff
  turningOn : s.gap.state = .turningOn → s.enabling = some .turningOn ∧ s.disabling = none
  turningOff : s.gap.state = .turningOff → s.enabling = none ∧ s.disabling = some .turningOff
  posted : s.own.count .profileApiStart = if s.enabling = some .posted then 1 else 0
  amAsked : s.disabling = some .amDisabling →
    s.gap.config.isEnabled .btAm = true ∨ .amDisableDone ∈ s.own
  enableTimers : s.enabling = none →
    s.gap.enable_timer = false ∧ s.gap.profile_startup_timer = false
  stopTimer : s.disabling ≠ some .stopping → s.disabling ≠ some .amDisabling →
    s.gap.profile_stop_timer = false
  disableTimer : s.disabling ≠ some .turningOff → s.gap.disable_timer = false
  reported : s.enabling = none ∨ s.enabling = some .starting →
    ∀ p, s.gap.config.isEnabled p = true → s.reported p = s.gap.startStatus p
  starting : s.enabling = some .starting → s.gap.allStarted = false
  waits : s.disabling = some .stopping → s.gap.allStopped = false ∧
    ∀ p, s.gap.config.isEnabled p = true → p ≠ .btAm → s.told p = true
  enables : s.enables = s.enabledAnswers + if s.enabling = none then 0 else 1
  disables : s.disables = s.disabledAnswers + if s.disabling = none then 0 else 1
  truthful : ∀ a ∈ s.answered, a.answer = .enabled .on →
    a.gap.state = .on ∧ ∀ p, a.gap.config.isEnabled p = true → a.reported p = true

variable {s : Session}

theorem Sound.kept (h : Sound s) : Kept s := { h with
  starting hs := Gap.exists_not_started (h.starting hs)
  waits hs := by
    obtain ⟨hnot, htold⟩ := h.waits hs
    obtain ⟨p, hp, hne, hstop⟩ := Gap.exists_not_stopped hnot
    exact ⟨fun p hp hne _ => htold p hp hne, p, htold p hp hne, hstop⟩
  timers := by
    intro henabling hdisabling
    obtain ⟨henable, hstartup⟩ := h.enableTimers henabling
    have hstop := h.stopTimer (by rw [hdisabling]; nofun) (by rw [hdisabling]; nofun)
    exact ⟨hstartup, hstop, henable, h.disableTimer (by rw [hdisabling]; nofun)⟩ }

theorem Sound.new (config : Config) : Sound (new config) where
  off _ := ⟨rfl, rfl⟩
  on h := nomatch h
  turningOn h := nomatch h
  turningOff h := nomatch h
  posted := rfl
  amAsked h := nomatch h
  enableTimers _ := ⟨rfl, rfl⟩
  stopTimer _ _ := rfl
  disableTimer _ := rfl
  reported _ _ _ := rfl
  starting h := nomatch h
  waits h := nomatch h
  enables := rfl
  disables := rfl
  truthful _ h := nomatch h

/-- The phase of an enable tells the state. -/
theorem Sound.state_of_enabling (h : Sound s) :
    (s.enabling = some .turningOn → s.gap.state = .turningOn) ∧
      (s.enabling = some .posted → s.gap.state = .on) ∧
      (s.enabling = some .starting → s.gap.state = .on) := by
  cases hstate : s.gap.state with
  | off =>
      have henabling := (h.off hstate).1
      rw [henabling]
      exact ⟨nofun, nofun, nofun⟩
  | on => exact ⟨fun he => absurd he (h.on hstate).1, fun _ => rfl, fun _ => rfl⟩
  | turningOn =>
      have henabling := (h.turningOn hstate).1
      rw [henabling]
      exact ⟨fun _ => rfl, nofun, nofun⟩
  | turningOff =>
      have henabling := (h.turningOff hstate).1
      rw [henabling]
      exact ⟨nofun, nofun, nofun⟩

/-- The phase of a disable tells the state. -/
theorem Sound.state_of_disabling (h : Sound s) {phase : Disabling}
    (hphase : s.disabling = some phase) :
    s.gap.state = if phase = .turningOff then .turningOff else .on := by
  cases hstate : s.gap.state with
  | off =>
      rw [(h.off hstate).2] at hphase
      cases hphase
  | on =>
      rw [if_neg]
      rintro rfl
      exact (h.on hstate).2 hphase
  | turningOn =>
      rw [(h.turningOn hstate).2] at hphase
      cases hphase
  | turningOff =>
      rw [(h.turningOff hstate).2] at hphase
      cases hphase
      rfl

/-! ## What each event does -/

/-- The ledger of an event without an answer. -/
theorem process_silent {event : Event} {gap : Gap} {messages : List Message}
    (h : s.gap.processEvent event = (gap, messages)) (hanswers : answers messages = []) :
    s.process event =
      { gap := gap
        own := s.own ++ ownMessages messages
        enabling := nextEnabling event messages s.enabling
        disabling := nextDisabling event messages s.disabling
        told := nextTold event messages s.told
        reported := nextReported gap.config event messages s.reported
        enables := s.enables + event.enables
        disables := s.disables + event.disables
        answered := s.answered } := by
  unfold process record
  rw [h]
  simp only [hanswers, map_nil, append_nil]

/-- The ledger of an event that is answered, and with nothing else. -/
theorem process_answer {event : Event} {gap : Gap} {answer : Answer}
    (h : s.gap.processEvent event = (gap, [.main answer])) :
    s.process event =
      { gap := gap
        own := s.own
        enabling := nextEnabling event [.main answer] s.enabling
        disabling := nextDisabling event [.main answer] s.disabling
        told := nextTold event [.main answer] s.told
        reported := nextReported gap.config event [.main answer] s.reported
        enables := s.enables + event.enables
        disables := s.disables + event.disables
        answered := s.answered ++
          [⟨answer, gap, nextReported gap.config event [.main answer] s.reported⟩] } := by
  unfold process record
  rw [h]
  show ({ own := s.own ++ [], .. } : Session) = _
  rw [append_nil]
  rfl

/-- The answers with one more. -/
theorem enabledAnswers_append (t : Session) (answered : List Answered) (answer : Answered)
    (ht : t.answered = answered ++ [answer]) :
    t.enabledAnswers = (answered.countP fun a =>
        match a.answer with | .enabled _ => true | .disabled _ => false) +
      (match answer.answer with | .enabled _ => 1 | .disabled _ => 0) := by
  unfold enabledAnswers
  rw [ht, countP_append, countP_singleton]
  cases answer.answer <;> rfl

theorem disabledAnswers_append (t : Session) (answered : List Answered) (answer : Answered)
    (ht : t.answered = answered ++ [answer]) :
    t.disabledAnswers = (answered.countP fun a =>
        match a.answer with | .enabled _ => false | .disabled _ => true) +
      (match answer.answer with | .enabled _ => 0 | .disabled _ => 1) := by
  unfold disabledAnswers
  rw [ht, countP_append, countP_singleton]
  cases answer.answer <;> rfl

/-- The answers stay truthful if a new success comes from an adapter with all its profiles. -/
theorem Sound.truthful_append (h : Sound s) {answer : Answered}
    (hnew : answer.answer = .enabled .on → answer.gap.state = .on ∧
      ∀ p, answer.gap.config.isEnabled p = true → answer.reported p = true) :
    ∀ a ∈ s.answered ++ [answer], a.answer = .enabled .on →
      a.gap.state = .on ∧ ∀ p, a.gap.config.isEnabled p = true → a.reported p = true := by
  intro a ha hanswer
  obtain ha | ha := mem_append.1 ha
  · exact h.truthful a ha hanswer
  · obtain rfl := mem_singleton.1 ha
    exact hnew hanswer

end Session

end Adapter
