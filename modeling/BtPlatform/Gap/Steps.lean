import BtPlatform.Gap.Sound

/-!
# Steps of the adapter

Every event that meets its condition leaves everything in its place: the adapter's states,
the start of the profiles, and their stop.
-/

namespace Adapter

open List

namespace Session

variable {s : Session}

/-! ## Adapter states -/

/-- The adapter is on: the start of the profiles is posted. -/
theorem Sound.adapterOn (h : Sound s) (hcareful : s.Careful (.adapterState .on)) :
    Sound (s.process (.adapterState .on)) := by
  have henabling : s.enabling = some .turningOn := hcareful
  obtain ⟨-, hdisabling⟩ := h.turningOn (h.state_of_enabling.1 henabling)
  rw [process_silent rfl rfl, show nextEnabling (.adapterState .on)
    [.own .profileApiStart] s.enabling =
    some .posted from if_pos henabling]
  have hposted : s.own.count .profileApiStart = 0 := by
    rw [h.posted, henabling]
    rfl
  exact { h with
    off := nofun
    on := fun _ => ⟨nofun, by show s.disabling ≠ _; rw [hdisabling]; nofun⟩
    turningOn := nofun
    turningOff := nofun
    posted := by
      show (s.own ++ [OwnMessage.profileApiStart]).count .profileApiStart = 1
      rw [count_append, hposted]
      rfl
    amAsked := fun hd => by
      have hd' : s.disabling = some .amDisabling := hd
      rw [hdisabling] at hd'
      cases hd'
    enableTimers := nofun
    reported := fun hphase => hphase.elim nofun nofun
    starting := nofun
    waits := fun hd => by
      have hd' : s.disabling = some .stopping := hd
      rw [hdisabling] at hd'
      cases hd'
    enables := by
      have hcount := h.enables
      rw [henabling] at hcount
      exact hcount }

/-- The adapter is off: the disable is answered. -/
theorem Sound.adapterOff (h : Sound s) (hcareful : s.Careful (.adapterState .off)) :
    Sound (s.process (.adapterState .off)) := by
  have hdisabling : s.disabling = some .turningOff := hcareful
  obtain ⟨henabling, -⟩ := h.turningOff (h.state_of_disabling hdisabling)
  rw [process_answer rfl]
  exact { h with
    off := fun _ => ⟨henabling, rfl⟩
    on := nofun
    turningOn := nofun
    turningOff := nofun
    amAsked := nofun
    stopTimer := fun _ _ => h.stopTimer (by rw [hdisabling]; nofun) (by rw [hdisabling]; nofun)
    disableTimer := fun _ => rfl
    waits := nofun
    enables := by
      rw [enabledAnswers_append _ _ _ rfl]
      exact h.enables
    disables := by
      rw [disabledAnswers_append _ _ _ rfl]
      have hcount := h.disables
      rw [hdisabling] at hcount
      exact hcount
    truthful := h.truthful_append nofun }

/-! ## Enabling -/

theorem Sound.apiEnable_on (h : Sound s) {ok : Bool} (hstate : s.gap.state = .on)
    (hreported : ∀ p, s.gap.config.isEnabled p = true → s.reported p = true) :
    Sound (s.process (.apiEnable ok)) := by
  have hprocess : s.gap.processEvent (.apiEnable ok) = (s.gap, [.main (.enabled .on)]) :=
    if_neg (by rw [hstate]; nofun)
  rw [process_answer hprocess]
  exact { h with
    enables := by
      rw [enabledAnswers_append _ _ _ rfl]
      show s.enables + 1 = _ + 1 + if s.enabling = none then 0 else 1
      rw [h.enables, Nat.add_right_comm]
      rfl
    disables := by
      rw [disabledAnswers_append _ _ _ rfl]
      exact h.disables
    truthful := h.truthful_append fun _ => ⟨hstate, hreported⟩ }

/-- The stack refuses: the enable is answered with the adapter off. -/
theorem Sound.apiEnable_refused (h : Sound s) (hstate : s.gap.state = .off) :
    Sound (s.process (.apiEnable false)) := by
  have hprocess : s.gap.processEvent (.apiEnable false) = (s.gap, [.main (.enabled .off)]) := by
    show (if s.gap.state = .off then s.gap.handleEnable false else _) = _
    rw [if_pos hstate]
    exact if_pos hstate
  rw [process_answer hprocess]
  exact { h with
    enables := by
      rw [enabledAnswers_append _ _ _ rfl]
      show s.enables + 1 = _ + 1 + if s.enabling = none then 0 else 1
      rw [h.enables, Nat.add_right_comm]
      rfl
    disables := by
      rw [disabledAnswers_append _ _ _ rfl]
      exact h.disables
    truthful := h.truthful_append nofun }

/-- The stack takes the enable on. -/
theorem Sound.apiEnable_accepted (h : Sound s) (hstate : s.gap.state = .off) :
    Sound (s.process (.apiEnable true)) := by
  obtain ⟨henabling, hdisabling⟩ := h.off hstate
  have hprocess : s.gap.processEvent (.apiEnable true) =
      ({ s.gap with enable_timer := true, state := .turningOn }, []) := by
    show (if s.gap.state = .off then s.gap.handleEnable true else _) = _
    rw [if_pos hstate]
    exact if_pos hstate
  have hposted : s.own.count .profileApiStart = 0 := by
    rw [h.posted, henabling]
    rfl
  rw [process_silent hprocess rfl]
  exact { h with
    off := nofun
    on := nofun
    turningOn := fun _ => ⟨rfl, hdisabling⟩
    turningOff := nofun
    posted := by
      show (s.own ++ []).count OwnMessage.profileApiStart = 0
      rw [append_nil]
      exact hposted
    amAsked := fun hd => by
      have hd' : s.disabling = some .amDisabling := hd
      rw [hdisabling] at hd'
      cases hd'
    enableTimers := nofun
    reported := fun hphase => hphase.elim nofun nofun
    starting := nofun
    waits := fun hd => by
      have hd' : s.disabling = some .stopping := hd
      rw [hdisabling] at hd'
      cases hd'
    enables := by
      show s.enables + 1 = s.enabledAnswers + 1
      have hcount := h.enables
      rw [henabling] at hcount
      rw [hcount]
      rfl }

theorem Sound.apiEnable (h : Sound s) {ok : Bool} (hcareful : s.Careful (.apiEnable ok)) :
    Sound (s.process (.apiEnable ok)) := by
  obtain hstate | ⟨hstate, hreported⟩ := hcareful
  · cases ok with
    | false => exact h.apiEnable_refused hstate
    | true => exact h.apiEnable_accepted hstate
  · exact h.apiEnable_on hstate hreported

/-- The profiles are told to start. The SDP client is always among them. -/
theorem Sound.profileApiStart (h : Sound s) {own : List OwnMessage}
    (hown : s.own = .profileApiStart :: own) :
    Sound ({ s with own := own }.process .profileApiStart) := by
  have hposted := h.posted
  rw [hown, count_cons_self] at hposted
  have henabling : s.enabling = some .posted := by
    by_contra hne
    rw [if_neg hne] at hposted
    exact absurd hposted (Nat.succ_ne_zero _)
  have hrest : own.count .profileApiStart = 0 := by
    rw [if_pos henabling] at hposted
    exact Nat.succ.inj hposted
  have hstate := h.state_of_enabling.2.1 henabling
  have hprocess : s.gap.processEvent .profileApiStart =
      ({ s.gap with
          startStatus := resetStatuses s.gap.config s.gap.startStatus
          profile_startup_timer := true },
        s.gap.startMessages) := rfl
  rw [process_silent (s := { s with own := own }) hprocess answers_startMessages,
    show nextEnabling .profileApiStart s.gap.startMessages s.enabling = some .starting from
      if_pos henabling]
  exact { h with
    off := fun hoff => by
      have hoff' : s.gap.state = .off := hoff
      rw [hstate] at hoff'
      cases hoff'
    on := fun _ => ⟨nofun, (h.on hstate).2⟩
    turningOn := fun hs => by
      have hs' : s.gap.state = .turningOn := hs
      rw [hstate] at hs'
      cases hs'
    turningOff := fun hs => by
      have hs' : s.gap.state = .turningOff := hs
      rw [hstate] at hs'
      cases hs'
    posted := by
      show (own ++ ownMessages s.gap.startMessages).count OwnMessage.profileApiStart = 0
      rw [ownMessages_startMessages, append_nil]
      exact hrest
    amAsked := fun hd => by
      refine (h.amAsked hd).imp id fun hmem => mem_append_left _ ?_
      rw [hown] at hmem
      exact (mem_cons.1 hmem).resolve_left nofun
    enableTimers := nofun
    reported := fun _ p hp => (if_pos hp).symm
    starting := fun _ => by
      refine eq_false_of_ne_true fun hall => ?_
      have hsdp : resetStatuses s.gap.config s.gap.startStatus .sdpClient = true :=
        Gap.allStarted_iff.1 hall .sdpClient s.gap.config.sdpClient
      rw [resetStatuses, if_pos s.gap.config.sdpClient] at hsdp
      cases hsdp
    enables := by
      have hcount := h.enables
      rw [henabling] at hcount
      exact hcount }

/-- A profile has reported its start; with the last one the enable is answered. -/
theorem Sound.startDone (h : Sound s) {profile : ProfileId} {status : Bool}
    (hcareful : s.Careful (.startDone profile status)) :
    Sound (s.process (.startDone profile status)) := by
  have hreported : s.enabling = none ∨ s.enabling = some .starting → ∀ p,
      s.gap.config.isEnabled p = true →
      setStatus s.gap.config profile status s.reported p =
        setStatus s.gap.config profile status s.gap.startStatus p := by
    intro hphase p hp
    unfold setStatus
    rw [h.reported hphase p hp]
  cases hall : (s.gap.noteStart profile status).allStarted with
  | false =>
      have hprocess : s.gap.processEvent (.startDone profile status) =
          (s.gap.noteStart profile status, []) :=
        if_neg (by rw [hall]; exact Bool.false_ne_true)
      rw [process_silent hprocess rfl]
      exact { h with
        posted := by
          show (s.own ++ []).count OwnMessage.profileApiStart = _
          rw [append_nil]
          exact h.posted
        amAsked := fun hd => (h.amAsked hd).imp id (mem_append_left _)
        reported := hreported
        starting := fun _ => hall }
  | true =>
      have henabling : s.enabling = some .starting := hcareful hall
      have hstate := h.state_of_enabling.2.2 henabling
      have hprocess : s.gap.processEvent (.startDone profile status) =
          ({ s.gap.noteStart profile status with
              profile_startup_timer := false
              enable_timer := false }, [.main (.enabled .on)]) := if_pos hall
      have hposted := h.posted
      rw [henabling] at hposted
      rw [process_answer hprocess]
      exact { h with
        off := fun hoff => by
          have hoff' : s.gap.state = .off := hoff
          rw [hstate] at hoff'
          cases hoff'
        on := fun _ => ⟨nofun, (h.on hstate).2⟩
        turningOn := fun hs => by
          have hs' : s.gap.state = .turningOn := hs
          rw [hstate] at hs'
          cases hs'
        turningOff := fun hs => by
          have hs' : s.gap.state = .turningOff := hs
          rw [hstate] at hs'
          cases hs'
        posted := hposted
        enableTimers := fun _ => ⟨rfl, rfl⟩
        reported := fun _ => hreported (.inr henabling)
        starting := nofun
        enables := by
          rw [enabledAnswers_append _ _ _ rfl]
          have hcount := h.enables
          rw [henabling] at hcount
          exact hcount
        disables := by
          rw [disabledAnswers_append _ _ _ rfl]
          exact h.disables
        truthful := by
          refine h.truthful_append fun _ => ⟨hstate, fun p hp => ?_⟩
          show setStatus s.gap.config profile status s.reported p = true
          rw [hreported (.inr henabling) p hp]
          exact Gap.allStarted_iff.1 hall p hp }

/-! ## Disabling -/

/-- A disable is ignored unless the adapter is on. -/
theorem Sound.apiDisable_ignored (h : Sound s) (hstate : s.gap.state ≠ .on) :
    Sound (s.process .apiDisable) := by
  have hprocess : s.gap.processEvent .apiDisable = (s.gap, [.main (.disabled .off)]) :=
    if_pos hstate
  have hstopping : s.disabling ≠ some .stopping := fun hd =>
    hstate (h.state_of_disabling hd)
  rw [process_answer hprocess]
  exact { h with
    waits := fun hd => absurd hd hstopping
    enables := by
      rw [enabledAnswers_append _ _ _ rfl]
      exact h.enables
    disables := by
      rw [disabledAnswers_append _ _ _ rfl]
      show s.disables + 1 = _ + 1 + if s.disabling = none then 0 else 1
      rw [h.disables, Nat.add_right_comm]
      rfl
    truthful := h.truthful_append nofun }

/-- The A2DP sink is asked to clean up before the profiles are stopped. -/
theorem Sound.apiDisable_sink (h : Sound s) (hstate : s.gap.state = .on)
    (hdisabling : s.disabling = none) (hsink : s.gap.config.isEnabled .a2dpSink = true) :
    Sound (s.process .apiDisable) := by
  have hprocess : s.gap.processEvent .apiDisable =
      (s.gap, s.gap.disableMessages ++ [.sinkCleanup]) := by
    refine (if_neg ?_).trans (if_pos hsink)
    exact not_not_intro hstate
  have hanswers : answers (s.gap.disableMessages ++ [.sinkCleanup]) = [] := by
    rw [answers_append, answers_disableMessages]
    rfl
  have hownMessages : ownMessages (s.gap.disableMessages ++ [.sinkCleanup]) = [] := by
    rw [ownMessages_append, ownMessages_disableMessages]
    rfl
  have hnext : nextDisabling .apiDisable (s.gap.disableMessages ++ [.sinkCleanup]) s.disabling =
      some .cleaning := by
    refine (if_neg ?_).trans (if_pos ?_)
    · exact not_not_intro hanswers
    · exact mem_append_right _ (mem_singleton.2 rfl)
  rw [process_silent hprocess hanswers, hownMessages, append_nil, hnext]
  exact { h with
    off := fun hoff => by
      rw [hstate] at hoff
      cases hoff
    on := fun hon => ⟨(h.on hon).1, nofun⟩
    turningOn := fun hs => by
      rw [hstate] at hs
      cases hs
    turningOff := fun hs => by
      rw [hstate] at hs
      cases hs
    amAsked := nofun
    stopTimer := fun _ _ => h.stopTimer (by rw [hdisabling]; nofun) (by rw [hdisabling]; nofun)
    disableTimer := fun _ => h.disableTimer (by rw [hdisabling]; nofun)
    waits := nofun
    disables := by
      show s.disables + 1 = s.disabledAnswers + 1
      rw [h.disables, hdisabling]
      rfl }

/-- The profiles are told to stop. The SDP client is always among those that must answer. -/
theorem Sound.stopProfiles (h : Sound s) {told : ProfileId → Bool} {disables : Nat}
    (hstate : s.gap.state = .on)
    (htold : ∀ p, s.gap.config.isEnabled p = true → p ≠ .btAm → told p = true)
    (hdisables : disables = s.disabledAnswers + 1) (hnot : s.disabling ≠ some .turningOff) :
    Sound { s with
      gap := s.gap.stopProfiles.1
      disabling := some .stopping
      told := told
      disables := disables } := { h with
  off hoff := by
    have hoff' : s.gap.state = .off := hoff
    rw [hstate] at hoff'
    cases hoff'
  on hon := ⟨(h.on hon).1, nofun⟩
  turningOn hs := by
    have hs' : s.gap.state = .turningOn := hs
    rw [hstate] at hs'
    cases hs'
  turningOff hs := by
    have hs' : s.gap.state = .turningOff := hs
    rw [hstate] at hs'
    cases hs'
  amAsked := nofun
  stopTimer hd := absurd rfl hd
  disableTimer _ := h.disableTimer hnot
  waits _ := by
    refine ⟨eq_false_of_ne_true fun hall => ?_, htold⟩
    have hsdp : resetStatuses s.gap.config s.gap.stopStatus .sdpClient = true :=
      Gap.allStopped_iff.1 hall .sdpClient s.gap.config.sdpClient nofun
    rw [resetStatuses, if_pos s.gap.config.sdpClient] at hsdp
    cases hsdp
  disables := hdisables }

/-- Without an A2DP sink the profiles are stopped at once. -/
theorem Sound.apiDisable_stop (h : Sound s) (hstate : s.gap.state = .on)
    (hdisabling : s.disabling = none) (hsink : s.gap.config.isEnabled .a2dpSink = false)
    (hstarted : ∀ p, s.gap.config.isEnabled p = true → p ≠ .btAm → s.gap.startStatus p = true) :
    Sound (s.process .apiDisable) := by
  have hprocess : s.gap.processEvent .apiDisable =
      (s.gap.stopProfiles.1, s.gap.disableMessages ++ s.gap.stopMessages) := by
    refine (if_neg ?_).trans (if_neg ?_)
    · exact not_not_intro hstate
    · rw [hsink]
      exact Bool.false_ne_true
  have hanswers : answers (s.gap.disableMessages ++ s.gap.stopMessages) = [] := by
    rw [answers_append, answers_disableMessages, answers_stopMessages]
    rfl
  have hownMessages : ownMessages (s.gap.disableMessages ++ s.gap.stopMessages) = [] := by
    rw [ownMessages_append, ownMessages_disableMessages, ownMessages_stopMessages]
    rfl
  have hnext : nextDisabling .apiDisable (s.gap.disableMessages ++ s.gap.stopMessages)
      s.disabling = some .stopping := by
    refine (if_neg ?_).trans (if_neg fun hmem => ?_)
    · exact not_not_intro hanswers
    · obtain hmem | hmem := mem_append.1 hmem
      · obtain h | h := mem_disableMessages hmem
        · cases h
        · cases h
      · obtain ⟨p, -, hp⟩ := mem_map.1 hmem
        cases hp
  rw [process_silent hprocess hanswers, hownMessages, append_nil, hnext]
  refine h.stopProfiles hstate (fun p hp hne => ?_) ?_ (by rw [hdisabling]; nofun)
  · refine decide_eq_true (mem_append_right _ ?_)
    exact mem_stopMessages.2 ⟨hp, hstarted p hp hne, hne⟩
  · show s.disables + 1 = s.disabledAnswers + 1
    rw [h.disables, hdisabling]
    rfl

theorem Sound.apiDisable (h : Sound s) (hcareful : s.Careful .apiDisable) :
    Sound (s.process .apiDisable) := by
  by_cases hstate : s.gap.state = .on
  · obtain ⟨hdisabling, hstarted⟩ := hcareful hstate
    cases hsink : s.gap.config.isEnabled .a2dpSink with
    | false => exact h.apiDisable_stop hstate hdisabling hsink (hstarted hsink)
    | true => exact h.apiDisable_sink hstate hdisabling hsink
  · exact h.apiDisable_ignored hstate

/-- The A2DP sink has cleaned up. -/
theorem Sound.sinkCleanupDone (h : Sound s) (hcareful : s.Careful .sinkCleanupDone) :
    Sound (s.process .sinkCleanupDone) := by
  obtain ⟨hcleaning, hstarted⟩ := hcareful
  have hprocess : s.gap.processEvent .sinkCleanupDone =
      (s.gap.stopProfiles.1, s.gap.stopMessages) := rfl
  rw [process_silent hprocess (answers_stopMessages _), ownMessages_stopMessages, append_nil]
  refine h.stopProfiles (h.state_of_disabling hcleaning) (fun p hp hne => ?_) ?_
    (by rw [hcleaning]; nofun)
  · exact decide_eq_true (mem_stopMessages.2 ⟨hp, hstarted p hp hne, hne⟩)
  · show s.disables = s.disabledAnswers + 1
    rw [h.disables, hcleaning]
    rfl

/-- What follows the last stop: the audio manager is asked, or its message is posted. -/
def amMessages (config : Config) : List Message :=
  if config.isEnabled .btAm then [.amDisable] else [.own .amDisableDone]

theorem answers_amMessages {config : Config} : answers (amMessages config) = [] := by
  unfold amMessages
  split
  · rfl
  · rfl

theorem count_ownMessages_amMessages (config : Config) :
    (ownMessages (amMessages config)).count .profileApiStart = 0 := by
  unfold amMessages
  split
  · rfl
  · rfl

theorem amMessages_ne_nil {config : Config} : amMessages config ≠ [] := by
  unfold amMessages
  split
  · nofun
  · nofun

/-- The audio manager is asked if it is enabled; if not, its message is on the way. -/
theorem amMessages_asked (config : Config) :
    config.isEnabled .btAm = true ∨ .amDisableDone ∈ ownMessages (amMessages config) := by
  unfold amMessages
  cases hbtAm : config.isEnabled .btAm with
  | false => exact .inr (mem_singleton.2 rfl)
  | true => exact .inl rfl

/-- A profile has reported its stop; after the last one the audio manager is next. -/
theorem Sound.stopDone (h : Sound s) {profile : ProfileId} {status : Bool}
    (hcareful : s.Careful (.stopDone profile status)) :
    Sound (s.process (.stopDone profile status)) := by
  cases hall : (s.gap.noteStop profile status).allStopped with
  | false =>
      have hprocess : s.gap.processEvent (.stopDone profile status) =
          (s.gap.noteStop profile status, []) :=
        if_neg (by rw [hall]; exact Bool.false_ne_true)
      rw [process_silent hprocess rfl]
      exact { h with
        posted := by
          show (s.own ++ []).count OwnMessage.profileApiStart = _
          rw [append_nil]
          exact h.posted
        amAsked := fun hd => (h.amAsked hd).imp id (mem_append_left _)
        waits := fun hd => ⟨hall, (h.waits hd).2⟩ }
  | true =>
      have hdisabling : s.disabling = some .stopping := hcareful hall
      have hstate : s.gap.state = .on := h.state_of_disabling hdisabling
      have hprocess : s.gap.processEvent (.stopDone profile status) =
          (s.gap.noteStop profile status, amMessages s.gap.config) := if_pos hall
      have hnext : nextDisabling (.stopDone profile status) (amMessages s.gap.config)
          s.disabling = some .amDisabling := if_neg amMessages_ne_nil
      rw [process_silent hprocess answers_amMessages, hnext]
      exact { h with
        off := fun hoff => by
          have hoff' : s.gap.state = .off := hoff
          rw [hstate] at hoff'
          cases hoff'
        on := fun hon => ⟨(h.on hon).1, nofun⟩
        turningOn := fun hs => by
          have hs' : s.gap.state = .turningOn := hs
          rw [hstate] at hs'
          cases hs'
        turningOff := fun hs => by
          have hs' : s.gap.state = .turningOff := hs
          rw [hstate] at hs'
          cases hs'
        posted := by
          show (s.own ++ ownMessages (amMessages _)).count OwnMessage.profileApiStart = _
          rw [count_append, count_ownMessages_amMessages]
          exact h.posted
        amAsked := fun _ => (amMessages_asked s.gap.config).imp id (mem_append_right _)
        stopTimer := fun _ hd => absurd rfl hd
        disableTimer := fun _ => h.disableTimer (by rw [hdisabling]; nofun)
        waits := nofun
        disables := by
          have hcount := h.disables
          rw [hdisabling] at hcount
          exact hcount }

/-- The audio manager is done: the stack disables the adapter, or the disable is answered. -/
theorem Sound.amDisableDone (h : Sound s) {own : List OwnMessage} {ok : Bool}
    (hown : own.count .profileApiStart = s.own.count .profileApiStart)
    (hcareful : s.Careful (.amDisableDone ok)) :
    Sound ({ s with own := own }.process (.amDisableDone ok)) := by
  obtain ⟨hphase, hok⟩ := hcareful
  have hnone : s.disabling ≠ none := by
    rintro hnone
    rw [hnone] at hphase
    obtain hphase | hphase | hphase := hphase
    · cases hphase
    · cases hphase
    · cases hphase
  have hstate : s.gap.state = .on := by
    obtain hphase | hphase | hphase := hphase
    · exact h.state_of_disabling hphase
    · exact h.state_of_disabling hphase
    · exact h.state_of_disabling hphase
  have hposted : own.count .profileApiStart = if s.enabling = some .posted then 1 else 0 :=
    hown.trans h.posted
  have hcount := h.disables
  rw [if_neg hnone] at hcount
  cases ok with
  | false =>
      have hprocess : s.gap.processEvent (.amDisableDone false) =
          ({ s.gap with profile_stop_timer := false }, [.main (.disabled .on)]) :=
        if_neg fun hcontra => Bool.false_ne_true hcontra.2
      rw [process_answer (s := { s with own := own }) hprocess]
      exact { h with
        off := fun hoff => ⟨(h.off hoff).1, rfl⟩
        on := fun hon => ⟨(h.on hon).1, nofun⟩
        turningOn := fun hs => ⟨(h.turningOn hs).1, rfl⟩
        turningOff := fun hs => by
          have hs' : s.gap.state = .turningOff := hs
          rw [hstate] at hs'
          cases hs'
        posted := hposted
        amAsked := nofun
        stopTimer := fun _ _ => rfl
        disableTimer := fun _ => h.disableTimer (h.on hstate).2
        waits := nofun
        enables := by
          rw [enabledAnswers_append _ _ _ rfl]
          exact h.enables
        disables := by
          rw [disabledAnswers_append _ _ _ rfl]
          exact hcount
        truthful := h.truthful_append nofun }
  | true =>
      have henabling : s.enabling = none := hok rfl
      have hprocess : s.gap.processEvent (.amDisableDone true) =
          ({ s.gap with profile_stop_timer := false, disable_timer := true, state := .turningOff },
            []) := if_pos ⟨hstate, rfl⟩
      rw [process_silent (s := { s with own := own }) hprocess rfl]
      exact { h with
        off := nofun
        on := nofun
        turningOn := nofun
        turningOff := fun _ => ⟨henabling, rfl⟩
        posted := by
          show (own ++ []).count OwnMessage.profileApiStart = _
          rw [append_nil]
          exact hposted
        amAsked := nofun
        stopTimer := fun _ _ => rfl
        disableTimer := fun hd => absurd rfl hd
        waits := nofun
        disables := hcount }

end Session

end Adapter
