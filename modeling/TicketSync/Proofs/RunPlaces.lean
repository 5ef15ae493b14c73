import TicketSync.Proofs.WebhookRouting

/-! # What happens to the runs of jobs

Of a lane only its round and the runs of its round matter for the places that runs have. Whatever
happens to the listeners changes this for one lane at most: a round opens with runs that wait or
closes when all have ended, or one run begins, goes on or ends. -/
namespace TicketSync.Engine

variable {τ : Type}

/-- Whether a mark is of a run that began or ended. -/
def Mark.isOfRun : Mark → Bool
  | .began .. | .ended .. => true
  | _ => false

/-- The beginnings and the ends of runs, in order. -/
def runMarks (marks : List Mark) : List Mark := marks.filter Mark.isOfRun

/-- The round of a lane, with its runs. -/
def Lane.work (l : Lane τ) : Nat × List (JobRun τ) := (l.round, l.runs)

/-- The rounds of all lanes, with their runs. -/
def Listening.works (x : Listening τ) : List (Nat × List (JobRun τ)) := x.lanes.map Lane.work

/-- How many runs have a place, of these. -/
def activeIn (works : List (Nat × List (JobRun τ))) : Nat :=
  works.foldr (fun w n => w.2.countP JobRun.isActive + n) 0

theorem Listening.active_eq (x : Listening τ) : x.active = activeIn x.works := by
  simp only [active, activeIn, works, List.foldr_map]
  rfl

/-- What happened to the runs, with the one that began: nothing, a round was opened or closed, or a
run began, went on or ended. -/
inductive Listening.Moves (x x' : Listening τ) : Option Beginning → Prop
  | rests (works : x'.works = x.works) (marks : runMarks x'.marks = runMarks x.marks) :
      Moves x x' none
  | opens (i n : Nat) (runs : List (JobRun τ)) (before : x.works[i]? = some (n, []))
      (queued : ∀ r ∈ runs, r.isQueued = true) (works : x'.works = x.works.set i (n, runs))
      (marks : runMarks x'.marks = runMarks x.marks) : Moves x x' none
  | closes (i n : Nat) (runs : List (JobRun τ)) (before : x.works[i]? = some (n, runs))
      (ended : ∀ r ∈ runs, r.hasEnded = true) (works : x'.works = x.works.set i (n + 1, []))
      (marks : runMarks x'.marks = runMarks x.marks) : Moves x x' none
  | begins (i n j : Nat) (runs : List (JobRun τ)) (r r' : JobRun τ)
      (before : x.works[i]? = some (n, runs)) (place : runs[j]? = some r)
      (queued : r.isQueued = true) (active : r'.isActive = true) (room : x.active < runWidth)
      (works : x'.works = x.works.set i (n, runs.set j r'))
      (marks : runMarks x'.marks = runMarks x.marks ++ [.began i n j]) :
      Moves x x' (some ⟨i, n, j, r.job, r.update⟩)
  | goesOn (i n j : Nat) (runs : List (JobRun τ)) (r r' : JobRun τ)
      (before : x.works[i]? = some (n, runs)) (place : runs[j]? = some r)
      (active : r.isActive = true) (active' : r'.isActive = true)
      (works : x'.works = x.works.set i (n, runs.set j r'))
      (marks : runMarks x'.marks = runMarks x.marks) : Moves x x' none
  | ends (i n j : Nat) (runs : List (JobRun τ)) (r r' : JobRun τ)
      (before : x.works[i]? = some (n, runs)) (place : runs[j]? = some r)
      (active : r.isActive = true) (ended : r'.hasEnded = true)
      (works : x'.works = x.works.set i (n, runs.set j r'))
      (marks : runMarks x'.marks = runMarks x.marks ++ [.ended i n j]) : Moves x x' none

theorem runMarks_append (marks : List Mark) (m : Mark) :
    runMarks (marks ++ [m]) = runMarks marks ++ if m.isOfRun then [m] else [] := by
  cases h : m.isOfRun <;> simp [runMarks, h]

namespace Listening

variable {x x' : Listening τ} {i j : Nat} {l : Lane τ} {r r' : JobRun τ}

theorem works_getElem? (hl : x.lanes[i]? = some l) : x.works[i]? = some l.work := by
  simp [works, hl]

theorem works_of_set (l' : Lane τ) (hlanes : x'.lanes = x.lanes.set i l') :
    x'.works = x.works.set i l'.work := by
  simp [works, hlanes, List.map_set]

/-- A lane that changes with its round and its runs as they are. -/
theorem Moves.of_work (l' : Lane τ) (hl : x.lanes[i]? = some l) (hlanes : x'.lanes = x.lanes.set i l')
    (hwork : l'.work = l.work) (hmarks : runMarks x'.marks = runMarks x.marks) : x.Moves x' none := by
  refine .rests ?_ hmarks
  rw [works_of_set _ hlanes, hwork]
  exact set_of_getElem? (works_getElem? hl)

theorem runs_of_isWaiting (h : l.isWaiting = true) : l.runs = [] := by
  rw [Lane.runs, stage_of_isWaiting h]

/-! ### Requests and lanes -/

theorem moves_pass (x : Listening τ) (i : Nat) (d : Delivery) : x.Moves (x.pass i d) none := by
  unfold pass
  split
  · exact .rests rfl rfl
  · split
    · exact .rests rfl rfl
    · next k l hl =>
      split
      · exact .rests rfl rfl
      · split
        · refine .of_work (l.enqueue d) hl ?_ rfl (by simp [mark, answer, modify, runMarks_append,
            Mark.isOfRun])
          simp [mark, answer, modify, modify_of_getElem? hl]
        · exact .rests rfl rfl

theorem moves_visit (x : Listening τ) (s : Session τ) (i : Nat) : x.Moves (x.visit s i).1 none := by
  unfold visit
  split
  · split <;> exact .rests rfl rfl
  · exact x.moves_pass i _
  · exact .rests rfl rfl

theorem moves_take (x : Listening τ) (i : Nat) : x.Moves (x.take i) none := by
  unfold take
  split
  · next l hl =>
    split
    · next d task hstage hwaits =>
      refine .of_work l.take hl rfl ?_ (by simp [mark, runMarks_append, Mark.isOfRun])
      have hround : l.take.round = l.round := by
        rcases l.take_cases with htake | ⟨_, _, -, -, htake⟩ <;> rw [htake]
      have hruns : l.take.runs = [] := by rw [Lane.runs, hstage]
      rw [Lane.work, Lane.work, hround, hruns, runs_of_isWaiting hwaits]
    · exact .rests rfl rfl
  · exact .rests rfl rfl

/-- A turn of a lane opens a round when an update was read, and otherwise touches no run. -/
theorem moves_read (x : Listening τ) (s : Session τ) (i : Nat) : x.Moves (x.read s i).1 none := by
  unfold read
  split
  · next l hl =>
    simp only
    cases hstage : l.stage with
    | reading d task =>
      have hruns : l.runs = [] := by rw [Lane.runs, hstage]
      cases houtcome : task.outcome? with
      | none =>
        have hruns' : (l.turn s).1.runs = [] := by simp [Lane.turn, hstage, houtcome, Lane.runs]
        have hround : (l.turn s).1.round = l.round := by simp [Lane.turn, hstage, houtcome]
        exact .of_work (l.turn s).1 hl rfl
          (by rw [Lane.work, Lane.work, hruns, hruns', hround]) rfl
      | some outcome =>
        have hround : (l.turn s).1.round = l.round := by
          cases hread : Inbox.toHandle outcome <;> simp [Lane.turn, hstage, houtcome, hread]
        cases hread : Inbox.toHandle outcome with
        | none =>
          have hruns' : (l.turn s).1.runs = [] := by
            simp [Lane.turn, hstage, houtcome, hread, Lane.runs]
          exact .of_work (l.turn s).1 hl rfl
            (by rw [Lane.work, Lane.work, hruns, hruns', hround]) rfl
        | some update =>
          refine .opens i l.round (l.turn s).1.runs ?_ ?_ ?_ rfl
          · rw [works_getElem? hl, Lane.work, hruns]
          · intro r hr
            simp only [Lane.turn, hstage, houtcome, hread, Lane.runs, List.mem_map] at hr
            obtain ⟨job, -, rfl⟩ := hr
            rfl
          · rw [works_of_set (l.turn s).1 rfl, Lane.work, hround]
    | _ =>
      refine .of_work (l.turn s).1 hl rfl ?_ rfl
      simp [Lane.turn, hstage]
  · exact .rests rfl rfl

theorem moves_next (x : Listening τ) (i : Nat) : x.Moves (x.modify i Lane.next) none := by
  cases hl : x.lanes[i]? with
  | none => exact .rests (by simp [works, modify, modify_of_getElem?_none hl]) rfl
  | some l =>
    have hlanes : (x.modify i Lane.next).lanes = x.lanes.set i l.next := modify_of_getElem? hl
    rcases l.next_cases with hnext | ⟨d, runs, hstage, hended, hnext⟩
    · exact .of_work l.next hl hlanes (by rw [hnext]) rfl
    · refine .closes i l.round runs ?_ hended ?_ rfl
      · rw [works_getElem? hl, Lane.work, Lane.runs, hstage]
      · rw [works_of_set _ hlanes, hnext]
        rfl

theorem moves_leave (x : Listening τ) (isCancelled : Bool) (i : Nat) (r : Outcome Unit) :
    x.Moves (x.leave isCancelled i r) none := by
  unfold leave
  split
  · next l hl =>
    split
    · next hleave =>
      have hwaits : l.isWaiting = true := by
        simp only [canLeave, Bool.and_eq_true] at hleave
        exact hleave.1
      refine .of_work (l.leave r) hl (modify_of_getElem? hl) ?_ rfl
      rw [Lane.work, Lane.work, runs_of_isWaiting hwaits]
      rfl
    · exact .rests rfl rfl
  · exact .rests rfl rfl

/-! ### Runs -/

theorem works_modifyRun (h : x.run? i j = some (l, r)) (r' : JobRun τ) :
    (x.modifyRun i j r').works = x.works.set i (l.round, l.runs.set j r') := by
  obtain ⟨hl, hr⟩ := Logbook.run?_eq_some h
  rw [works_of_set _ (modify_of_getElem? hl)]
  cases hstage : l.stage with
  | running d runs =>
    rw [Lane.runs, hstage] at hr
    have hplace : runs[j]? = some r := hr
    simp [Lane.work, Lane.modifyRun, Lane.runs, hstage, modify_of_getElem? hplace]
  | _ => simp [Lane.runs, hstage] at hr

theorem moves_start (x : Listening τ) (i j : Nat) :
    x.Moves (x.start i j) (x.begins? (.start i j)) := by
  have hrests : x.start i j = x → x.Moves (x.start i j) (x.begins? (.start i j)) := by
    intro hsame
    rw [begins?, hsame, if_pos rfl]
    exact .rests rfl rfl
  cases hrun : x.run? i j with
  | none => exact hrests (by simp [start, hrun])
  | some lr =>
    obtain ⟨l, job, update, stage⟩ := lr
    cases stage with
    | queued =>
      by_cases hroom : x.active < runWidth
      · obtain ⟨hl, hr⟩ := Logbook.run?_eq_some hrun
        have hstart : x.start i j =
            (x.modifyRun i j (JobRun.start ⟨job, update, .queued⟩)).mark (.began i l.round j) := by
          simp [start, hrun, hroom]
        have hbegins : x.begins? (.start i j) = some ⟨i, l.round, j, job, update⟩ := by
          simp [begins?, hstart, hrun, mark, modifyRun, modify]
        rw [hbegins, hstart]
        refine .begins i l.round j l.runs _ _ (works_getElem? hl) hr rfl rfl hroom
          (works_modifyRun hrun _) ?_
        simp [mark, runMarks_append, Mark.isOfRun, modifyRun, modify]
      · exact hrests (by simp [start, hrun, hroom])
    | _ => exact hrests (by simp [start, hrun])

/-- A run that has a place keeps it or has ended, and one without a place stays as it is. -/
theorem moves_advance (h : x.run? i j = some (l, r))
    (hgoes : r.isActive = true ∧ (r'.isActive = true ∨ r'.hasEnded = true) ∨
      r.isActive = false ∧ r' = r) : x.Moves (x.advance i j l.round r r') none := by
  obtain ⟨hl, hr⟩ := Logbook.run?_eq_some h
  rcases hgoes with ⟨hactive, hactive' | hended⟩ | ⟨hactive, rfl⟩
  · have hlive : r'.hasEnded = false := by
      cases hstage : r'.stage <;> simp [JobRun.isActive, JobRun.hasEnded, hstage] at hactive' ⊢
    have hadvance : x.advance i j l.round r r' = x.modifyRun i j r' := by
      simp [advance, hlive]
    rw [hadvance]
    exact .goesOn i l.round j l.runs r r' (works_getElem? hl) hr hactive hactive'
      (works_modifyRun h r') rfl
  · have hadvance : x.advance i j l.round r r' = (x.modifyRun i j r').mark (.ended i l.round j) := by
      simp [advance, hactive, hended]
    rw [hadvance]
    refine .ends i l.round j l.runs r r' (works_getElem? hl) hr hactive hended
      (works_modifyRun h r') ?_
    simp [mark, runMarks_append, Mark.isOfRun, modifyRun, modify]
  · have hadvance : x.advance i j l.round r' r' = x.modifyRun i j r' := by
      simp [advance, hactive]
    rw [hadvance]
    refine .rests ?_ rfl
    rw [works_modifyRun h r', set_of_getElem? hr]
    exact set_of_getElem? (works_getElem? hl)

theorem goes_turn (s : Session τ) (r : JobRun τ) :
    r.isActive = true ∧ ((r.turn s).1.isActive = true ∨ (r.turn s).1.hasEnded = true) ∨
      r.isActive = false ∧ (r.turn s).1 = r := by
  cases hstage : r.stage with
  | active task =>
    refine .inl ⟨by simp [JobRun.isActive, hstage], ?_⟩
    cases houtcome : task.outcome? with
    | none => simp [JobRun.turn, hstage, houtcome, JobRun.isActive]
    | some outcome => simp [JobRun.turn, hstage, houtcome, JobRun.hasEnded]
  | _ => exact .inr ⟨by simp [JobRun.isActive, hstage], by simp [JobRun.turn, hstage]⟩

/-- A run with a place that has ended after a turn had come to its end before it. -/
theorem outcome_of_turn {s : Session τ} {r : JobRun τ} (hactive : r.isActive = true)
    (hended : (r.turn s).1.hasEnded = true) :
    ∃ task o, r.stage = .active task ∧ task.outcome? = some o := by
  cases hstage : r.stage with
  | active task =>
    cases houtcome : task.outcome? with
    | none => simp [JobRun.turn, hstage, houtcome, JobRun.hasEnded] at hended
    | some o => exact ⟨task, o, rfl, houtcome⟩
  | _ => simp [JobRun.isActive, hstage] at hactive

theorem goes_expire (limit : Nat) (r : JobRun τ) :
    r.isActive = true ∧ ((r.expire limit).isActive = true ∨ (r.expire limit).hasEnded = true) ∨
      r.isActive = false ∧ r.expire limit = r := by
  cases hstage : r.stage with
  | active task => exact .inl ⟨by simp [JobRun.isActive, hstage],
      .inr (by simp [JobRun.expire, hstage, JobRun.hasEnded])⟩
  | _ => exact .inr ⟨by simp [JobRun.isActive, hstage], by simp [JobRun.expire, hstage]⟩

theorem moves_turn (x : Listening τ) (s : Session τ) (i j : Nat) : x.Moves (x.turn s i j).1 none := by
  unfold turn
  split
  · next l r hrun => exact moves_advance hrun (goes_turn s r)
  · exact .rests rfl rfl

theorem moves_expire (x : Listening τ) (limit : Option Nat) (i j : Nat) :
    x.Moves (x.expire limit i j) none := by
  unfold expire
  split
  · next limit l r hrun => exact moves_advance hrun (goes_expire limit r)
  · exact .rests rfl rfl

/-- What happens to the listeners moves the runs of one lane at most. -/
theorem moves_step (x : Listening τ) (s : Session τ) (event : ListenerEvent) :
    x.Moves (x.step s event).1 (x.begins? event) := by
  cases event with
  | arrive r =>
    refine .rests ?_ ?_ <;> simp only [step] <;> split <;> rfl
  | visit i => exact x.moves_visit s i
  | take i => exact x.moves_take i
  | read i => exact x.moves_read s i
  | start i j => exact x.moves_start i j
  | turn i j => exact x.moves_turn s i j
  | expire i j => exact x.moves_expire s.runLimit i j
  | next i => exact x.moves_next i
  | leave i r => exact x.moves_leave s.world.isCancelled i r
  | close r =>
    refine .rests ?_ ?_ <;> simp only [step, close] <;> split <;> rfl
  | revoke => exact .rests rfl rfl
  | see =>
    refine .rests ?_ ?_ <;> simp only [step, see] <;> split <;> rfl

end Listening
end TicketSync.Engine
