import OrderDesk.Proofs.Scene

/-!
# `OrderDesk.Proofs.Turns` — what the floor does is one of the orders of steps

`Floor.join` takes turns with its operations. Each turn is a sequence of steps of a scene, so what
holds of every scene holds of every assembly that the floor runs, whatever its outside answers.

## Contents
- `Scene.Leads`: choices lead from one scene to another.
- `Scene.Turn`, with a lemma for each part of a turn up to `turn_leads`.
- `Scene.Calm`: the operations stand where they may be given up; `round_leads`, `rounds_leads`.
- `Floor.join_play`: an assembly of calls is a scene that was played.
-/

namespace OrderDesk

/-- The floor without its outside. -/
def Floor.forget {σ : Type} (f : Floor σ) : Floor Unit :=
  { common := f.common, books := f.books, lines := f.lines, outside := () }

namespace Scene

variable {α ι σ : Type} {calls : ι → Nat × Routine α}

/-- Choices lead from one scene to the other. -/
def Leads (calls : ι → Nat × Routine α) (s s' : Scene α) : Prop :=
  ∃ choices : List (Choice ι), s.play calls choices = s'

theorem Leads.refl (s : Scene α) : Leads calls s s := ⟨[], rfl⟩

theorem Leads.step (s : Scene α) (choice : Choice ι) : Leads calls s (s.next calls choice) :=
  ⟨[choice], rfl⟩

theorem Leads.trans {s s' s'' : Scene α} (h : Leads calls s s') (h' : Leads calls s' s'') :
    Leads calls s s'' := by
  obtain ⟨first, rfl⟩ := h
  obtain ⟨second, rfl⟩ := h'
  exact ⟨first ++ second, List.foldl_append⟩

/-- The scene after deeds of one operation, where it stands as `job` and leaves `floor`. -/
def after (s : Scene α) (me : Nat) (job : Job α) (floor : Floor Unit) (deeds : List Deed) :
    Scene α where
  floor
  jobs := s.jobs.set me job
  history := s.history ++ deeds

/-- By steps of its own the operation comes to stand as `job` and leaves `floor`. -/
def Turn (calls : ι → Nat × Routine α) (s : Scene α) (me : Nat) (job : Job α) (floor : Floor Unit) :
    Prop :=
  ∃ deeds : List Deed, (∀ deed ∈ deeds, deed.who = me) ∧ Leads calls s (s.after me job floor deeds)

theorem set_self {s : Scene α} {me : Nat} {job : Job α} (here : s.jobs[me]? = some job) :
    s.jobs.set me job = s.jobs := by
  obtain ⟨inside, rfl⟩ := List.getElem?_eq_some_iff.1 here
  exact List.set_getElem_self inside

/-- A turn without a step. -/
theorem Turn.still {s : Scene α} {me : Nat} {job : Job α} (here : s.jobs[me]? = some job) :
    Turn calls s me job s.floor := by
  refine ⟨[], fun deed h => absurd h List.not_mem_nil, ?_⟩
  have same : s.after me job s.floor [] = s := by
    unfold after
    rw [List.append_nil, set_self here]
  rw [same]
  exact .refl s

/-- Where an operation stands after a step. -/
theorem jobs_took {s : Scene α} {me : Nat} {job : Job α} {ev : Event} {progress : Progress α}
    {floor : Floor Unit} (here : s.jobs[me]? = some job) :
    (s.took me job ev progress floor).jobs[me]? =
      some { job with progress, reserved := reservedBy job.reserved ev } := by
  obtain ⟨inside, -⟩ := List.getElem?_eq_some_iff.1 here
  exact List.getElem?_set_self inside

/-- No question is answered. -/
def silent (r : Request) : r.Reply := .error default

/-- A turn that begins with a step. -/
theorem Turn.step {s : Scene α} {me : Nat} {job job' : Job α} {floor floor' : Floor Unit}
    {ev : Event} {progress : Progress α} (answer : (r : Request) → r.Reply) (stopped : Bool)
    (here : s.jobs[me]? = some job)
    (step : s.floor.move? me job.desk answer stopped job.progress = some (ev, progress, floor))
    (rest : Turn calls (s.took me job ev progress floor) me job' floor') :
    Turn calls s me job' floor' := by
  obtain ⟨deeds, own, leads⟩ := rest
  refine ⟨⟨me, ev, s.floor.desk job.desk⟩ :: deeds, fun deed hd => ?_, ?_⟩
  · rcases List.mem_cons.1 hd with rfl | hd
    · rfl
    · exact own deed hd
  · have first : s.next calls (.go me answer stopped) = s.took me job ev progress floor := by
      simp only [next, here, step]
    have joined : (s.took me job ev progress floor).after me job' floor' deeds =
        s.after me job' floor' (⟨me, ev, s.floor.desk job.desk⟩ :: deeds) := by
      simp [after, took]
    rw [← joined]
    refine Leads.trans (first ▸ Leads.step s (.go me answer stopped)) leads

/-- A turn that ends with the end of the operation. -/
theorem Turn.finish {s : Scene α} {me : Nat} {job : Job α} {a : α}
    (here : s.jobs[me]? = some job) (ended : job.progress = .ready (.done a)) :
    Turn calls s me { job with progress := .finished a } s.floor := by
  refine ⟨[], fun deed h => absurd h List.not_mem_nil, ?_⟩
  have last : s.next calls (.go me silent false) =
      s.after me { job with progress := .finished a } s.floor [] := by
    simp only [next, here, ended, Floor.move?, after, List.append_nil]
  rw [← last]
  exact .step s _

/-- **A turn of the floor**, from where an operation goes on to where it is suspended or over. -/
theorem advance_leads (out : Outside σ) (me : Nat) (p : Routine α) (job : Job α) {s : Scene α}
    {reserved : List String} {f : Floor σ}
    (here : s.jobs[me]? = some { job with progress := .ready p, reserved })
    (floor : s.floor = f.forget) :
    Turn calls s me
      { job with
        progress := (Floor.advance out me job.desk p reserved f).1
        reserved := (Floor.advance out me job.desk p reserved f).2.1 }
      (Floor.advance out me job.desk p reserved f).2.2.forget := by
  induction p generalizing s reserved f with
  | done a =>
    rw [show Floor.advance out me job.desk (.done a) reserved f = (.finished a, reserved, f) from rfl,
      ← floor]
    exact .finish here rfl
  | act e next ih =>
    refine .step silent false here rfl ?_
    rw [floor]
    exact ih (e.apply (f.desk job.desk)).1 (jobs_took here) rfl
  | ask r next ih =>
    refine .step silent false here rfl ?_
    rw [floor]
    by_cases wait : out.takesTurn r = true
    · rw [show Floor.advance out me job.desk (.ask r next) reserved f =
        (.asking r next, reserved, f) from if_pos wait]
      exact .still (jobs_took here)
    · rw [show Floor.advance out me job.desk (.ask r next) reserved f = _ from if_neg wait]
      refine .step (fun r => (out.reply f.outside r).1) false (jobs_took here) rfl ?_
      exact ih (out.reply f.outside r).1 (jobs_took (jobs_took here)) rfl
  | sleep d next ih =>
    refine .step silent false here rfl ?_
    rw [floor]
    exact .still (jobs_took here)
  | lock wallet next ih =>
    refine .step silent false here rfl ?_
    rw [floor]
    by_cases first : ((f.putLine wallet (f.line wallet ++ [me])).line wallet).head? = some me
    · rw [show Floor.advance out me job.desk (.lock wallet next) reserved f = _ from if_pos first]
      refine .step silent false (jobs_took here) (if_pos first) ?_
      exact ih (jobs_took (jobs_took here)) rfl
    · rw [show Floor.advance out me job.desk (.lock wallet next) reserved f = _ from if_neg first]
      exact .still (jobs_took here)
  | unlock wallet next ih =>
    refine .step silent false here rfl ?_
    rw [floor]
    exact ih (jobs_took here) rfl

/-- A turn ends where the operation is suspended or over. -/
theorem advance_stands (out : Outside σ) (me i : Nat) (p : Routine α) (reserved : List String)
    (f : Floor σ) : (Floor.advance out me i p reserved f).1.isSuspended = true ∨
      ∃ a, (Floor.advance out me i p reserved f).1 = .finished a := by
  induction p generalizing reserved f with
  | done a => exact .inr ⟨a, rfl⟩
  | act e next ih => exact ih _ _ _
  | ask r next ih =>
    unfold Floor.advance
    split
    · exact .inl rfl
    · exact ih _ _ _
  | sleep d next ih => exact .inl rfl
  | lock wallet next ih =>
    unfold Floor.advance
    dsimp only
    split
    · exact ih _ _
    · exact .inl rfl
  | unlock wallet next ih => exact ih _ _

/-! ### Whole assemblies -/

variable (calls)

/-- Every operation is over or stands where it may be given up. -/
def Calm (s : Scene α) : Prop :=
  ∀ (me : Nat) (job : Job α), s.jobs[me]? = some job →
    s.mayGiveUp me job = true ∨ Floor.isOver job = true

/-- Operations and floor come to this, and all is calm. -/
def Reaches (calls : ι → Nat × Routine α) (s : Scene α) (jobs : List (Job α)) (floor : Floor Unit) :
    Prop :=
  ∃ s', Leads calls s s' ∧ s'.Calm ∧ s'.jobs = jobs ∧ s'.floor = floor

theorem Reaches.still {s : Scene α} (calm : s.Calm) : Reaches calls s s.jobs s.floor :=
  ⟨s, .refl s, calm, rfl, rfl⟩

variable {calls} in
theorem Reaches.trans {s : Scene α} {jobs jobs' : List (Job α)} {floor floor' : Floor Unit}
    (first : Reaches calls s jobs floor)
    (second : ∀ s', s'.Calm → s'.jobs = jobs → s'.floor = floor → Reaches calls s' jobs' floor') :
    Reaches calls s jobs' floor' := by
  obtain ⟨s', leads, calm, hjobs, hfloor⟩ := first
  obtain ⟨s'', leads', calm', hjobs', hfloor'⟩ := second s' calm hjobs hfloor
  exact ⟨s'', leads.trans leads', calm', hjobs', hfloor'⟩

/-- What one operation does leaves the others calm. -/
theorem Calm.after {s : Scene α} (calm : s.Calm) {me : Nat} {job : Job α} {floor : Floor Unit}
    {deeds : List Deed} (own : ∀ deed ∈ deeds, deed.who = me)
    (stands : job.progress.isSuspended = true ∨ Floor.isOver job = true) :
    (s.after me job floor deeds).Calm := by
  intro other job' hjob
  rcases of_getElem?_set hjob with ⟨rfl, rfl⟩ | ⟨ne, hjob⟩
  · refine stands.imp (fun suspended => ?_) id
    simp [mayGiveUp, suspended]
  · refine (calm other job' hjob).imp (fun may => ?_) id
    have quiet : deeds.all (·.who != other) = true := by
      refine List.all_eq_true.2 fun deed hd => ?_
      simpa [own deed hd] using Ne.symm ne
    simpa [mayGiveUp, Scene.after, List.all_append, quiet] using may

variable {calls} in
theorem Turn.reaches {s : Scene α} {me : Nat} {job : Job α} {floor : Floor Unit}
    (turn : Turn calls s me job floor) (calm : s.Calm)
    (stands : job.progress.isSuspended = true ∨ Floor.isOver job = true) :
    Reaches calls s (s.jobs.set me job) floor := by
  obtain ⟨deeds, own, leads⟩ := turn
  exact ⟨_, leads, calm.after own stands, rfl, rfl⟩

/-- A scene where an operation may be given up, once it is. -/
theorem giveUp_reaches {s : Scene α} (calm : s.Calm) {me : Nat} {job : Job α}
    (here : s.jobs[me]? = some job) (may : s.mayGiveUp me job = true) :
    Reaches calls s (s.jobs.set me (s.floor.giveUp me job).1) (s.floor.giveUp me job).2 := by
  have given : s.next calls (.giveUp me) =
      s.after me (s.floor.giveUp me job).1 (s.floor.giveUp me job).2 [] := by
    simp only [next, here, may, if_true, after, List.append_nil]
  refine ⟨_, given ▸ .step s _, calm.after (fun deed h => absurd h List.not_mem_nil) (.inr rfl),
    rfl, rfl⟩

end Scene

/-- Giving up has nothing to do with the outside. -/
theorem Floor.forget_giveUp {α σ : Type} (f : Floor σ) (me : Nat) (job : Job α) :
    (f.giveUp me job).1 = (f.forget.giveUp me job).1 ∧
      (f.giveUp me job).2.forget = (f.forget.giveUp me job).2 := by
  have freed (ids : List String) (f : Floor σ) :
      (ids.foldl (fun f id => f.putDesk job.desk
        ((Effect.release id).apply (f.desk job.desk)).2) f).forget =
      ids.foldl (fun f id => f.putDesk job.desk
        ((Effect.release id).apply (f.desk job.desk)).2) f.forget := by
    induction ids generalizing f with
    | nil => rfl
    | cons id rest ih => exact ih _
  refine ⟨rfl, ?_⟩
  unfold giveUp
  rw [← freed]
  rfl

namespace Scene

variable {α ι σ : Type} (calls : ι → Nat × Routine α)

/-- An operation that can go on takes its turn. -/
theorem goOn_leads (out : Outside σ) {s : Scene α} {f f' : Floor σ} {me : Nat} {job : Job α}
    {p : Routine α} (here : s.jobs[me]? = some job) (floor : s.floor = f.forget)
    (go : f.goOn? out me job.desk job.progress = some (p, f')) :
    Turn calls s me
      { job with
        progress := (Floor.advance out me job.desk p job.reserved f').1
        reserved := (Floor.advance out me job.desk p job.reserved f').2.1 }
      (Floor.advance out me job.desk p job.reserved f').2.2.forget := by
  obtain ⟨desk, progress, reserved, once⟩ := job
  cases progress with
  | ready next =>
    cases go
    exact advance_leads out me p _ here floor
  | inLine wallet next =>
    by_cases first : (f.line wallet).head? = some me
    · cases (if_pos first).symm.trans go
      refine .step silent false here (by rw [floor]; exact if_pos first) ?_
      exact advance_leads out me p _ (jobs_took here) rfl
    · cases (if_neg first).symm.trans go
  | asleep till next =>
    by_cases stopping : (f.desk desk).book.stopping = true
    · cases (if_pos stopping).symm.trans go
      refine .step silent true here (by rw [floor]; exact if_pos stopping) ?_
      exact advance_leads out me (next true) _ (jobs_took here) rfl
    · have go := (if_neg stopping).symm.trans go
      by_cases ended : till ≤ f.common.now
      · cases (if_pos ended).symm.trans go
        refine .step silent false here (by rw [floor]; exact if_pos (decide_eq_true ended)) ?_
        exact advance_leads out me (next false) _ (jobs_took here) rfl
      · cases (if_neg ended).symm.trans go
  | asking r next =>
    cases go
    refine .step (fun r => (out.reply f.outside r).1) false here rfl ?_
    refine advance_leads out me _ _ (jobs_took here) ?_
    exact floor
  | finished a => cases go
  | givenUp => cases go

/-- One turn of an operation on the floor, at whose end it may be given up. -/
theorem turn_reaches (out : Outside σ) {s : Scene α} {f : Floor σ} {me : Nat} {job : Job α}
    (calm : s.Calm) (here : s.jobs[me]? = some job) (floor : s.floor = f.forget) :
    Reaches calls s (s.jobs.set me (f.turn out me job).2.1) (f.turn out me job).2.2.forget := by
  cases go : f.goOn? out me job.desk job.progress with
  | none =>
    simp only [Floor.turn, go, set_self here, ← floor]
    exact .still calls calm
  | some result =>
    obtain ⟨p, f'⟩ := result
    have turn := goOn_leads calls out here floor go
    have stands := advance_stands out me job.desk p job.reserved f'
    generalize went : Floor.advance out me job.desk p job.reserved f' = stage at turn stands
    obtain ⟨progress, reserved, f''⟩ := stage
    have stands' : progress.isSuspended = true ∨
        Floor.isOver { job with progress, reserved } = true := by
      refine stands.imp id ?_
      rintro ⟨a, rfl⟩
      rfl
    have reached := turn.reaches calm stands'
    simp only [Floor.turn, go, went]
    split
    · next drop =>
      obtain ⟨-, notOver⟩ := Bool.and_eq_true_iff.1 drop
      have suspended : progress.isSuspended = true :=
        stands'.resolve_right (by simpa using notOver)
      obtain ⟨jobGone, floorGone⟩ := f''.forget_giveUp me { job with progress, reserved }
      refine reached.trans fun s' calm' hjobs hfloor => ?_
      have inside : me < s.jobs.length := (List.getElem?_eq_some_iff.1 here).1
      have here' : s'.jobs[me]? = some { job with progress, reserved } := by
        rw [hjobs]
        exact List.getElem?_set_self inside
      have gone := giveUp_reaches calls calm' here' (by simp [mayGiveUp, suspended])
      rw [hjobs, hfloor, List.set_set] at gone
      rw [jobGone, floorGone]
      exact gone
    · exact reached

/-- After the first operation's turn a round is over or goes on with the others. -/
theorem round_cons (out : Outside σ) (ends : α → Bool) (me : Nat) (job : Job α)
    (rest : List (Job α)) (f : Floor σ) :
    (Floor.round out ends me (job :: rest) f).2 =
        ((f.turn out me job).2.1 :: rest, (f.turn out me job).2.2) ∨
      (Floor.round out ends me (job :: rest) f).2 =
        ((f.turn out me job).2.1 ::
            (Floor.round out ends (me + 1) rest (f.turn out me job).2.2).2.1,
          (Floor.round out ends (me + 1) rest (f.turn out me job).2.2).2.2) := by
  simp only [Floor.round]
  split
  · split
    · exact .inl rfl
    · exact .inr rfl
  · exact .inr rfl

/-- A round of turns. -/
theorem round_reaches (out : Outside σ) (ends : α → Bool) (rest : List (Job α))
    (passed : List (Job α)) {s : Scene α} {f : Floor σ} (calm : s.Calm)
    (hjobs : s.jobs = passed ++ rest) (floor : s.floor = f.forget) :
    Reaches calls s (passed ++ (Floor.round out ends passed.length rest f).2.1)
      (Floor.round out ends passed.length rest f).2.2.forget := by
  induction rest generalizing s passed f with
  | nil =>
    have still := Reaches.still calls calm
    rw [hjobs, floor] at still
    exact still
  | cons job rest ih =>
    have here : s.jobs[passed.length]? = some job := by
      rw [hjobs]
      simp
    have reached := turn_reaches calls out calm here floor
    rw [hjobs, List.set_append_right _ _ (Nat.le_refl _), Nat.sub_self, List.set_cons_zero] at reached
    rcases round_cons out ends passed.length job rest f with ended | on
    · rw [ended]
      exact reached
    · rw [on]
      refine reached.trans fun s' calm' hjobs' hfloor' => ?_
      have others := ih (passed ++ [(f.turn out passed.length job).2.1]) calm'
        (by rw [hjobs', List.append_assoc, List.singleton_append]) hfloor'
      rw [List.length_append, List.append_assoc] at others
      exact others

/-- The end of an assembly that is broken off. -/
theorem giveUpAll_reaches (rest : List (Job α)) (passed : List (Job α)) {s : Scene α} {f : Floor σ}
    (calm : s.Calm) (hjobs : s.jobs = passed ++ rest) (floor : s.floor = f.forget) :
    Reaches calls s (passed ++ (f.giveUpAll passed.length rest).1)
      (f.giveUpAll passed.length rest).2.forget := by
  induction rest generalizing s passed f with
  | nil =>
    have still := Reaches.still calls calm
    rw [hjobs, floor] at still
    exact still
  | cons job rest ih =>
    have here : s.jobs[passed.length]? = some job := by
      rw [hjobs]
      simp
    by_cases ended : Floor.isOver job = true
    · simp only [Floor.giveUpAll, ended, if_true]
      have others := ih (passed ++ [job]) calm (by rw [hjobs, List.append_assoc]; rfl) floor
      rw [List.length_append, List.append_assoc] at others
      exact others
    · have gone := giveUp_reaches calls calm here ((calm _ job here).resolve_right ended)
      rw [hjobs, List.set_append_right _ _ (Nat.le_refl _), Nat.sub_self, List.set_cons_zero,
        floor, ← (f.forget_giveUp passed.length job).1, ← (f.forget_giveUp passed.length job).2]
        at gone
      simp only [Floor.giveUpAll, ended, Bool.false_eq_true, if_false]
      refine gone.trans fun s' calm' hjobs' hfloor' => ?_
      have others := ih (passed ++ [(f.giveUp passed.length job).1]) calm'
        (by rw [hjobs', List.append_assoc, List.singleton_append]) hfloor'
      rw [List.length_append, List.append_assoc] at others
      exact others

/-- Rounds up to the end of an assembly. -/
theorem rounds_reaches (out : Outside σ) (ends : α → Bool) (fuel : Nat) {jobs : List (Job α)}
    {s : Scene α} {f : Floor σ} (calm : s.Calm) (hjobs : s.jobs = jobs)
    (floor : s.floor = f.forget) :
    Reaches calls s (Floor.rounds out ends fuel jobs f).1
      (Floor.rounds out ends fuel jobs f).2.forget := by
  induction fuel generalizing s jobs f with
  | zero => exact giveUpAll_reaches calls jobs [] calm hjobs floor
  | succ fuel ih =>
    have reached := round_reaches calls out ends jobs [] calm hjobs floor
    simp only [List.nil_append, List.length_nil] at reached
    generalize went : Floor.round out ends 0 jobs f = stage at reached
    obtain ⟨moved, jobs', f'⟩ := stage
    simp only [Floor.rounds, went]
    refine reached.trans fun s' calm' hjobs' hfloor' => ?_
    split
    · exact giveUpAll_reaches calls jobs' [] calm' hjobs' hfloor'
    · split
      · have still := Reaches.still calls calm'
        rw [hjobs', hfloor'] at still
        exact still
      · split
        · exact ih calm' hjobs' hfloor'
        · split
          · next till _ =>
            -- Nobody can go on, and the clock moves to the end of a pause.
            have later : Reaches calls s' jobs'
                { s'.floor with common := { s'.floor.common with now := till } } :=
              ⟨_, .step s' (.clock till), calm', hjobs', rfl⟩
            refine later.trans fun s'' calm'' hjobs'' hfloor'' => ?_
            refine ih calm'' hjobs'' ?_
            rw [hfloor'', hfloor']
            rfl
          · exact giveUpAll_reaches calls jobs' [] calm' hjobs' hfloor'

/-- The calls of an assembly have been called and have not begun. -/
theorem play_calls (cs : List (ι × Bool)) (s : Scene α) :
    s.play calls (cs.map fun c => .call c.1 c.2) =
      { s with jobs := s.jobs ++ cs.map fun c => jobOf calls c.1 c.2 } := by
  induction cs generalizing s with
  | nil => simp [play]
  | cons c rest ih =>
    show play calls (s.next calls (.call c.1 c.2)) _ = _
    rw [ih]
    simp [next]

end Scene

/-- **What the floor does is one of the orders of steps.** For every outside, an assembly of calls comes
to the operations and the floor of a scene that was played from its opening. -/
theorem Floor.join_play {α ι σ : Type} (calls : ι → Nat × Routine α) (out : Outside σ)
    (ends : α → Bool) (cs : List (ι × Bool)) (common : Common) (books : List Book) (outside : σ) :
    ∃ choices : List (Choice ι),
      ((Scene.opening common books).play calls choices).jobs =
          (Floor.join out ends (cs.map fun c => Scene.jobOf calls c.1 c.2)
            { common, books, outside }).1 ∧
        ((Scene.opening common books).play calls choices).floor =
          (Floor.join out ends (cs.map fun c => Scene.jobOf calls c.1 c.2)
            { common, books, outside }).2.forget := by
  have called := Scene.play_calls calls cs (Scene.opening common books)
  have calm : ((Scene.opening common books).play calls (cs.map fun c => .call c.1 c.2)).Calm := by
    rw [called]
    intro me job hjob
    obtain ⟨c, -, rfl⟩ := List.mem_map.1 (List.mem_of_getElem? hjob)
    exact .inl rfl
  have floor : ((Scene.opening common books).play calls (cs.map fun c => .call c.1 c.2)).floor =
      ({ common, books, outside } : Floor σ).forget := by
    rw [called]
    rfl
  obtain ⟨s', ⟨choices, rfl⟩, -, hjobs, hfloor⟩ :=
    Scene.rounds_reaches calls out ends patience calm rfl floor
  rw [called] at hjobs hfloor
  refine ⟨(cs.map fun c => .call c.1 c.2) ++ choices, ?_⟩
  unfold Scene.play at called hjobs hfloor ⊢
  rw [List.foldl_append, called]
  exact ⟨hjobs, hfloor⟩

end OrderDesk
