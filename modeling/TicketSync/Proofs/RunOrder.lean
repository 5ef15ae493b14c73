import TicketSync.Proofs.RunPlaces

/-! # The order of runs and their places

A lane begins runs only in the round that is open, and opens a round only after all runs of the one
before have ended. A run has a place from its beginning to its end, however it ends, and there are
no more places than the width of runs. -/
namespace TicketSync.Engine

variable {τ : Type}

/-- Where a mark may stand after others. A run begins once, when all runs that began in earlier
rounds of its lane have ended and none of a later round has begun. Only a run under way ends. -/
def Mark.Follows (before : List Mark) : Mark → Prop
  | .began i n j => ∀ m k, .began i m k ∈ before →
      m < n ∧ .ended i m k ∈ before ∨ m = n ∧ k ≠ j
  | .ended i n j => .began i n j ∈ before ∧ .ended i n j ∉ before
  | _ => True

/-- Marks of which each may stand after those before it. -/
def InOrder (marks : List Mark) : Prop :=
  ∀ before m after, marks = before ++ m :: after → m.Follows before

/-- The runs that have begun and not ended, by lane, round and place in the round. -/
def underWay (marks : List Mark) : List (Nat × Nat × Nat) :=
  marks.filterMap fun
    | .began i n j => if .ended i n j ∈ marks then none else some (i, n, j)
    | _ => none

theorem mem_underWay {marks : List Mark} {i n j : Nat} :
    (i, n, j) ∈ underWay marks ↔ .began i n j ∈ marks ∧ .ended i n j ∉ marks := by
  simp only [underWay, List.mem_filterMap]
  constructor
  · rintro ⟨m, hm, hsome⟩
    cases m with
    | began i' n' j' =>
      by_cases hended : .ended i' n' j' ∈ marks
      · simp [hended] at hsome
      · obtain ⟨rfl, rfl, rfl⟩ : i' = i ∧ n' = n ∧ j' = j := by simpa [hended] using hsome
        exact ⟨hm, hended⟩
    | _ => simp at hsome
  · rintro ⟨hbegan, hended⟩
    exact ⟨_, hbegan, by simp [hended]⟩

namespace InOrder

variable {marks : List Mark} {i n j : Nat}

theorem nil : InOrder [] := by
  intro before m after h
  simp at h

theorem append (h : InOrder marks) {m : Mark} (hm : m.Follows marks) : InOrder (marks ++ [m]) := by
  intro before m' after heq
  rcases List.eq_nil_or_concat after with rfl | ⟨after', m'', rfl⟩
  · obtain ⟨rfl, hsame⟩ := List.append_inj' heq rfl
    exact (List.cons.inj hsame).1 ▸ hm
  · rw [List.concat_eq_append, ← List.cons_append, ← List.append_assoc] at heq
    exact h before m' after' (List.append_inj' heq rfl).1

theorem began_of_ended (h : InOrder marks) (hended : .ended i n j ∈ marks) :
    .began i n j ∈ marks := by
  obtain ⟨before, after, rfl⟩ := List.mem_iff_append.mp hended
  exact List.mem_append_left _ (h before _ after rfl).1

/-- A run that has not begun comes under way when it begins. -/
theorem underWay_began (h : InOrder marks) (hnew : .began i n j ∉ marks) :
    underWay (marks ++ [.began i n j]) = underWay marks ++ [(i, n, j)] := by
  have hended : .ended i n j ∉ marks := fun hended => hnew (h.began_of_ended hended)
  simp [underWay, List.filterMap_append, hended]

end InOrder

/-- A run that ends is under way no more. -/
theorem underWay_ended (marks : List Mark) (i n j : Nat) :
    underWay (marks ++ [.ended i n j]) = (underWay marks).filter (· != (i, n, j)) := by
  simp only [underWay, List.filterMap_append, List.filterMap_cons, List.filterMap_nil,
    List.append_nil, List.filter_filterMap]
  congr 1
  funext m
  cases m with
  | began i' n' j' =>
    by_cases hended : .ended i' n' j' ∈ marks
    · simp [hended]
    · by_cases hsame : (i', n', j') = (i, n, j)
      · obtain ⟨rfl, rfl, rfl⟩ : i' = i ∧ n' = n ∧ j' = j := by simpa using hsame
        simp [hended, Option.filter]
      · have hother : Mark.ended i' n' j' ≠ .ended i n j := by simpa using hsame
        simp [hended, hother, hsame, Option.filter]
  | _ => simp

/-! ### Places -/

theorem getElem?_set_eq_some_iff {α : Type} {xs : List α} {i k : Nat} {a b c : α}
    (h : xs[i]? = some a) :
    (xs.set i b)[k]? = some c ↔ k = i ∧ c = b ∨ k ≠ i ∧ xs[k]? = some c := by
  have hi := (List.getElem?_eq_some_iff.mp h).1
  by_cases hk : k = i
  · simp [hk, hi, eq_comm]
  · simp [hk, List.getElem?_set_ne (Ne.symm hk)]

theorem activeIn_set {works : List (Nat × List (JobRun τ))} {i : Nat}
    {w : Nat × List (JobRun τ)} (w' : Nat × List (JobRun τ)) (h : works[i]? = some w) :
    activeIn (works.set i w') + w.2.countP JobRun.isActive =
      activeIn works + w'.2.countP JobRun.isActive := by
  induction works generalizing i with
  | nil => simp at h
  | cons v works ih =>
    cases i with
    | zero =>
      obtain rfl : v = w := by simpa using h
      simp only [activeIn, List.set_cons_zero, List.foldr_cons]
      omega
    | succ i =>
      have ih := ih (by simpa using h)
      simp only [activeIn, List.set_cons_succ, List.foldr_cons] at ih ⊢
      omega

theorem activeIn_eq_zero {works : List (Nat × List (JobRun τ))}
    (h : ∀ w ∈ works, w.2.countP JobRun.isActive = 0) : activeIn works = 0 := by
  induction works with
  | nil => rfl
  | cons w works ih =>
    rw [activeIn, List.foldr_cons, h w List.mem_cons_self, Nat.zero_add]
    exact ih fun v hv => h v (List.mem_cons_of_mem _ hv)

/-- Whether a run has begun. -/
def JobRun.hasBegun (r : JobRun τ) : Bool := !r.isQueued

theorem idle_of_isQueued {r : JobRun τ} (h : r.isQueued = true) :
    r.hasBegun = false ∧ r.isActive = false := by
  obtain ⟨job, update, stage⟩ := r
  cases stage <;> first | exact ⟨rfl, rfl⟩ | cases h

theorem hasBegun_of_isActive {r : JobRun τ} (h : r.isActive = true) : r.hasBegun = true := by
  obtain ⟨job, update, stage⟩ := r
  cases stage <;> first | rfl | cases h

theorem over_of_hasEnded {r : JobRun τ} (h : r.hasEnded = true) :
    r.hasBegun = true ∧ r.isActive = false := by
  obtain ⟨job, update, stage⟩ := r
  cases stage <;> first | exact ⟨rfl, rfl⟩ | cases h

theorem any_of_idle {runs : List (JobRun τ)} (h : ∀ r ∈ runs, r.isActive = false) (j : Nat) :
    runs[j]?.any JobRun.isActive = false := by
  cases hr : runs[j]? with
  | none => rfl
  | some r => exact h r (List.mem_of_getElem? hr)

theorem countP_of_idle {runs : List (JobRun τ)} (h : ∀ r ∈ runs, r.isActive = false) :
    runs.countP JobRun.isActive = 0 :=
  List.countP_eq_zero.mpr fun r hr => by simp [h r hr]

/-- A property of the run at a place, after one run has become another. -/
theorem any_set {runs : List (JobRun τ)} {p : JobRun τ → Bool} {j k : Nat} {r r' : JobRun τ}
    (h : runs[j]? = some r) :
    (runs.set j r')[k]?.any p = if k = j then p r' else runs[k]?.any p := by
  by_cases hk : k = j
  · simp [hk, (List.getElem?_eq_some_iff.mp h).1]
  · simp [hk, List.getElem?_set_ne (Ne.symm hk)]

namespace Listening

/-- The listeners with their marks: the runs with a place are those under way, and what began in a
lane is of the open round or of an earlier one. -/
structure Paced (x : Listening τ) : Prop where
  inOrder : InOrder (runMarks x.marks)
  began : ∀ i n j, .began i n j ∈ runMarks x.marks → ∃ m runs, x.works[i]? = some (m, runs) ∧
    (n < m ∨ n = m ∧ runs[j]?.any JobRun.hasBegun = true)
  underWay : ∀ i n j, (i, n, j) ∈ underWay (runMarks x.marks) ↔
    ∃ runs, x.works[i]? = some (n, runs) ∧ runs[j]?.any JobRun.isActive = true
  nodup : (Engine.underWay (runMarks x.marks)).Nodup
  count : (Engine.underWay (runMarks x.marks)).length = x.active
  bound : x.active ≤ runWidth

theorem paced_begin (names : List String) (ownWay : String → Bool) :
    (Listening.begin names ownWay : Listening τ).Paced := by
  have hworks : ∀ w ∈ (Listening.begin names ownWay : Listening τ).works, w.2 = [] := by
    intro w hw
    simp only [Listening.begin, works, List.map_map, List.mem_map] at hw
    obtain ⟨name, -, rfl⟩ := hw
    rfl
  have hactive : (Listening.begin names ownWay : Listening τ).active = 0 := by
    rw [active_eq]
    exact activeIn_eq_zero fun w hw => by rw [hworks w hw]; rfl
  refine ⟨.nil, by simp [Listening.begin, runMarks], ?_, List.nodup_nil, hactive.symm, ?_⟩
  · intro i n j
    constructor
    · simp [Listening.begin, runMarks, Engine.underWay]
    · rintro ⟨runs, hi, hj⟩
      obtain rfl : runs = [] := hworks _ (List.mem_of_getElem? hi)
      simp at hj
  · rw [hactive]
    exact Nat.zero_le _

namespace Paced

variable {x x' : Listening τ} {i n n' j : Nat} {runs runs' : List (JobRun τ)} {r r' : JobRun τ}

/-- What stays when one lane changes and no run begins or ends. -/
theorem keeps (h : x.Paced) (before : x.works[i]? = some (n, runs))
    (works : x'.works = x.works.set i (n', runs')) (marks : runMarks x'.marks = runMarks x.marks)
    (hround : n ≤ n') (hbegan : ∀ j : Nat, runs[j]?.any JobRun.hasBegun = true →
      n < n' ∨ runs'[j]?.any JobRun.hasBegun = true)
    (hactive : ∀ m j : Nat, m = n ∧ runs[j]?.any JobRun.isActive = true ↔
      m = n' ∧ runs'[j]?.any JobRun.isActive = true)
    (hcount : runs'.countP JobRun.isActive = runs.countP JobRun.isActive) : x'.Paced := by
  have hsame : x'.active = x.active := by
    have hset := activeIn_set (n', runs') before
    rw [active_eq, active_eq, works]
    simp only at hset
    omega
  refine ⟨marks ▸ h.inOrder, ?_, ?_, marks ▸ h.nodup, ?_, hsame ▸ h.bound⟩
  · intro k m j hm
    obtain ⟨m', runs₀, hwork, hplace⟩ := h.began k m j (marks ▸ hm)
    simp only [works, getElem?_set_eq_some_iff before]
    by_cases hk : k = i
    · subst hk
      obtain ⟨rfl, rfl⟩ : n = m' ∧ runs = runs₀ := by simpa using before.symm.trans hwork
      refine ⟨n', runs', .inl ⟨rfl, rfl⟩, ?_⟩
      rcases hplace with hlt | ⟨rfl, hbegun⟩
      · exact .inl (by omega)
      · rcases hbegan j hbegun with hlt | hbegun'
        · exact .inl hlt
        · exact (Nat.lt_or_eq_of_le hround).imp_right fun he => ⟨he, hbegun'⟩
    · exact ⟨m', runs₀, .inr ⟨hk, hwork⟩, hplace⟩
  · intro k m j
    rw [marks, h.underWay, works]
    simp only [getElem?_set_eq_some_iff before]
    by_cases hk : k = i
    · subst hk
      have hiff := hactive m j
      simp only [before, Option.some.injEq, Prod.mk.injEq, true_and, ne_eq, not_true_eq_false,
        false_and, or_false, and_assoc]
      constructor
      · rintro ⟨_, rfl, rfl, hlive⟩
        obtain ⟨hm, hlive'⟩ := hiff.mp ⟨rfl, hlive⟩
        exact ⟨_, hm, rfl, hlive'⟩
      · rintro ⟨_, rfl, rfl, hlive⟩
        obtain ⟨hm, hlive'⟩ := hiff.mpr ⟨rfl, hlive⟩
        exact ⟨_, hm.symm, rfl, hlive'⟩
    · simp [hk]
  · rw [marks, h.count, hsame]

/-- Where the runs with a place are after one run has become another. -/
theorem place_set (before : x.works[i]? = some (n, runs)) (place : runs[j]? = some r)
    (works : x'.works = x.works.set i (n, runs.set j r')) (k m l : Nat) :
    (∃ runs, x'.works[k]? = some (m, runs) ∧ runs[l]?.any JobRun.isActive = true) ↔
      (k, m, l) = (i, n, j) ∧ r'.isActive = true ∨ (k, m, l) ≠ (i, n, j) ∧
        ∃ runs, x.works[k]? = some (m, runs) ∧ runs[l]?.any JobRun.isActive = true := by
  simp only [works, getElem?_set_eq_some_iff before]
  by_cases hk : k = i
  · subst hk
    by_cases hm : m = n
    · subst hm
      by_cases hl : l = j <;> simp [hl, before, any_set place]
    · simp [hm, before, Ne.symm (hm : m ≠ n)]
  · simp [hk]

/-- How many runs have a place after one run has become another. -/
theorem active_set (before : x.works[i]? = some (n, runs)) (place : runs[j]? = some r)
    (works : x'.works = x.works.set i (n, runs.set j r')) :
    x'.active + (if r.isActive then 1 else 0) = x.active + if r'.isActive then 1 else 0 := by
  have hset := activeIn_set (n, runs.set j r') before
  have hcount := countP_set_of_getElem? (p := JobRun.isActive) (b := r') place
  rw [active_eq, active_eq, works]
  simp only at hset
  omega

/-- What has begun is of the open round or of an earlier one, also after one run has become another
that has begun. -/
theorem began_set (h : x.Paced) (before : x.works[i]? = some (n, runs))
    (place : runs[j]? = some r) (begun : r'.hasBegun = true)
    (works : x'.works = x.works.set i (n, runs.set j r')) {k m l : Nat}
    (hm : .began k m l ∈ runMarks x.marks ∨ (k, m, l) = (i, n, j)) :
    ∃ m' runs, x'.works[k]? = some (m', runs) ∧
      (m < m' ∨ m = m' ∧ runs[l]?.any JobRun.hasBegun = true) := by
  simp only [works, getElem?_set_eq_some_iff before]
  rcases hm with hm | hm
  · obtain ⟨m', runs₀, hwork, hplace⟩ := h.began k m l hm
    by_cases hk : k = i
    · subst hk
      obtain ⟨rfl, rfl⟩ : n = m' ∧ runs = runs₀ := by simpa using before.symm.trans hwork
      refine ⟨n, _, .inl ⟨rfl, rfl⟩, hplace.imp_right fun ⟨hm, hbegun⟩ => ⟨hm, ?_⟩⟩
      rw [any_set place]
      split
      · exact begun
      · exact hbegun
    · exact ⟨m', runs₀, .inr ⟨hk, hwork⟩, hplace⟩
  · cases hm
    exact ⟨n, _, .inl ⟨rfl, rfl⟩, .inr ⟨rfl, by rw [any_set place, if_pos rfl]; exact begun⟩⟩

/-- A run begins: it has not begun before, and all runs of earlier rounds have ended. -/
theorem begins (h : x.Paced) (before : x.works[i]? = some (n, runs)) (place : runs[j]? = some r)
    (queued : r.isQueued = true) (active : r'.isActive = true) (room : x.active < runWidth)
    (works : x'.works = x.works.set i (n, runs.set j r'))
    (marks : runMarks x'.marks = runMarks x.marks ++ [.began i n j]) : x'.Paced := by
  have hidle := idle_of_isQueued queued
  have hround : ∀ m k, .began i m k ∈ runMarks x.marks →
      m < n ∨ m = n ∧ runs[k]?.any JobRun.hasBegun = true := by
    intro m k hm
    obtain ⟨m', runs₀, hwork, hplace⟩ := h.began i m k hm
    obtain ⟨rfl, rfl⟩ : n = m' ∧ runs = runs₀ := by simpa using before.symm.trans hwork
    exact hplace
  have hnew : .began i n j ∉ runMarks x.marks := by
    intro hm
    rcases hround n j hm with hlt | ⟨-, hany⟩
    · omega
    · simp [place, hidle.1] at hany
  have hactive : x'.active = x.active + 1 := by
    simpa [hidle.2, active] using active_set before place works
  refine ⟨?_, ?_, ?_, ?_, ?_, ?_⟩
  · rw [marks]
    refine h.inOrder.append fun m k hm => ?_
    rcases hround m k hm with hlt | ⟨rfl, hany⟩
    · refine .inl ⟨hlt, ?_⟩
      by_cases hended : .ended i m k ∈ runMarks x.marks
      · exact hended
      · obtain ⟨runs₀, hwork, -⟩ := (h.underWay i m k).mp (mem_underWay.mpr ⟨hm, hended⟩)
        obtain ⟨rfl, -⟩ : n = m ∧ runs = runs₀ := by simpa using before.symm.trans hwork
        omega
    · refine .inr ⟨rfl, ?_⟩
      rintro rfl
      simp [place, hidle.1] at hany
  · intro k m l hm
    rw [marks] at hm
    exact h.began_set before place (hasBegun_of_isActive active) works (by simpa using hm)
  · intro k m l
    rw [place_set before place works, marks, h.inOrder.underWay_began hnew, List.mem_append,
      List.mem_singleton, h.underWay]
    by_cases hsame : (k, m, l) = (i, n, j) <;> simp [hsame, active]
  · rw [marks, h.inOrder.underWay_began hnew, List.nodup_append]
    refine ⟨h.nodup, by simp, fun a ha b hb hab => hnew ?_⟩
    rw [hab, List.mem_singleton.mp hb] at ha
    exact (mem_underWay.mp ha).1
  · rw [marks, h.inOrder.underWay_began hnew, List.length_append, h.count, hactive]
    rfl
  · omega

/-- A run ends, and gives its place back. -/
theorem ends (h : x.Paced) (before : x.works[i]? = some (n, runs)) (place : runs[j]? = some r)
    (active : r.isActive = true) (ended : r'.hasEnded = true)
    (works : x'.works = x.works.set i (n, runs.set j r'))
    (marks : runMarks x'.marks = runMarks x.marks ++ [.ended i n j]) : x'.Paced := by
  have hover := over_of_hasEnded ended
  have hlive : (i, n, j) ∈ Engine.underWay (runMarks x.marks) :=
    (h.underWay i n j).mpr ⟨runs, before, by simp [place, active]⟩
  have hactive : x'.active + 1 = x.active := by
    simpa [hover.2, active] using active_set before place works
  refine ⟨?_, ?_, ?_, ?_, ?_, ?_⟩
  · rw [marks]
    exact h.inOrder.append (mem_underWay.mp hlive)
  · intro k m l hm
    rw [marks] at hm
    exact h.began_set before place hover.1 works (.inl (by simpa using hm))
  · intro k m l
    rw [place_set before place works, marks, underWay_ended, List.mem_filter, h.underWay]
    by_cases hsame : (k, m, l) = (i, n, j) <;> simp [hsame, hover.2]
  · rw [marks, underWay_ended]
    exact h.nodup.filter _
  · have hlength := List.length_erase_of_mem hlive
    rw [h.nodup.erase_eq_filter, h.count] at hlength
    rw [marks, underWay_ended, hlength]
    omega
  · have := h.bound
    omega

theorem moves {b : Option Beginning} (h : x.Paced) (hmoves : x.Moves x' b) : x'.Paced := by
  cases hmoves with
  | rests works marks =>
    have hactive : x'.active = x.active := by rw [active_eq, active_eq, works]
    exact ⟨marks ▸ h.inOrder, marks ▸ works ▸ h.began, marks ▸ works ▸ h.underWay, marks ▸ h.nodup,
      by rw [marks, hactive, h.count], hactive ▸ h.bound⟩
  | opens i n runs before queued works marks =>
    have hidle : ∀ r ∈ runs, r.isActive = false := fun r hr => (idle_of_isQueued (queued r hr)).2
    refine h.keeps before works marks (Nat.le_refl n) (by simp) (fun m j => ?_) ?_
    · simp [any_of_idle hidle]
    · simp [countP_of_idle hidle]
  | closes i n runs before ended works marks =>
    have hidle : ∀ r ∈ runs, r.isActive = false := fun r hr => (over_of_hasEnded (ended r hr)).2
    refine h.keeps before works marks (Nat.le_succ n) (fun j _ => .inl (Nat.lt_succ_self n))
      (fun m j => ?_) ?_
    · simp [any_of_idle hidle]
    · simp [countP_of_idle hidle]
  | begins i n j runs r r' before place queued active room works marks =>
    exact h.begins before place queued active room works marks
  | goesOn i n j runs r r' before place active active' works marks =>
    refine h.keeps before works marks (Nat.le_refl n) (fun k hk => .inr ?_) (fun m k => ?_) ?_
    · rw [any_set place]
      split
      · exact hasBegun_of_isActive active'
      · exact hk
    · rw [any_set place]
      split
      · next hk => simp [hk, place, active, active']
      · rfl
    · have hcount := countP_set_of_getElem? (p := JobRun.isActive) (b := r') place
      simp only [active, active'] at hcount
      omega
  | ends i n j runs r r' before place active ended works marks =>
    exact h.ends before place active ended works marks

end Paced

theorem paced_run (names : List String) (ownWay : String → Bool) (s : Session τ)
    (events : List ListenerEvent) :
    (Listening.run (.begin names ownWay, s) events).1.Paced := by
  suffices ∀ x : Listening τ × Session τ, x.1.Paced → (Listening.run x events).1.Paced from
    this _ (paced_begin names ownWay)
  induction events with
  | nil => exact fun _ h => h
  | cons event events ih => exact fun x h => ih _ (h.moves (x.1.moves_step x.2 event))

/-- A run has ended as this, and its place is there for any run that waits. -/
structure Frees (x x' : Listening τ) (i n j : Nat) (r' : JobRun τ) : Prop where
  run : ∃ l, x'.run? i j = some (l, r')
  ended : runMarks x'.marks = runMarks x.marks ++ [.ended i n j]
  active : x'.active + 1 = x.active
  next : ∀ k m l r, x'.run? k m = some (l, r) → r.isQueued = true →
    runMarks (x'.start k m).marks = runMarks x'.marks ++ [.began k l.round m]

variable {x : Listening τ} {i j : Nat} {l : Lane τ} {r r' : JobRun τ}

/-- A run that waits begins when there is a place. -/
theorem start_of_room (hroom : x.active < runWidth) (hrun : x.run? i j = some (l, r))
    (hqueued : r.isQueued = true) :
    runMarks (x.start i j).marks = runMarks x.marks ++ [.began i l.round j] := by
  obtain ⟨job, update, stage⟩ := r
  cases stage with
  | queued =>
    simp [start, hrun, hroom, mark, runMarks_append, Mark.isOfRun, modifyRun, modify]
  | _ => cases hqueued

theorem frees_advance (h : x.Paced) (hrun : x.run? i j = some (l, r)) (hactive : r.isActive = true)
    (hended : r'.hasEnded = true) : x.Frees (x.advance i j l.round r r') i l.round j r' := by
  obtain ⟨hl, hr⟩ := Logbook.run?_eq_some hrun
  have hadvance : x.advance i j l.round r r' = (x.modifyRun i j r').mark (.ended i l.round j) := by
    simp [advance, hactive, hended]
  have hcount : (x.modifyRun i j r').active + 1 = x.active := by
    simpa [(over_of_hasEnded hended).2, hactive] using
      Paced.active_set (works_getElem? hl) hr (works_modifyRun hrun r')
  rw [hadvance]
  refine ⟨⟨l.modifyRun j fun _ => r', ?_⟩, ?_, hcount, fun k m l' r₀ hrun' hqueued => ?_⟩
  · have hl' : (x.modifyRun i j r').lanes[i]? = some (l.modifyRun j fun _ => r') := by
      simp [Listening.modifyRun, modify, hl]
    have hwork := works_getElem? hl'
    rw [works_modifyRun hrun r', List.getElem?_set_self
      (List.getElem?_eq_some_iff.mp (works_getElem? hl)).1] at hwork
    have hruns := (Prod.mk.inj (Option.some.inj hwork)).2
    have hj : (l.modifyRun j fun _ => r').runs[j]? = some r' := by
      rw [← hruns, List.getElem?_set_self (List.getElem?_eq_some_iff.mp hr).1]
    simp [run?, mark, hl', hj]
  · simp [mark, runMarks_append, Mark.isOfRun, modifyRun, modify]
  · have hroom : ((x.modifyRun i j r').mark (.ended i l.round j)).active < runWidth := by
      have hbound := h.bound
      have hsame : ((x.modifyRun i j r').mark (.ended i l.round j)).active =
        (x.modifyRun i j r').active := rfl
      omega
    exact start_of_room hroom hrun' hqueued

/-- A run that has come to its end, whatever it is, gives its place back at its next turn. -/
theorem frees_turn (h : x.Paced) (s : Session τ) (hrun : x.run? i j = some (l, r))
    {task : Task Engine (World τ) Ticket} (hstage : r.stage = .active task) {o : Outcome Ticket}
    (ho : task.outcome? = some o) :
    x.Frees (x.turn s i j).1 i l.round j { r with stage := .ended o } := by
  have hturn : (r.turn s).1 = { r with stage := .ended o } := by
    simp [JobRun.turn, hstage, ho]
  have hadvance : (x.turn s i j).1 = x.advance i j l.round r { r with stage := .ended o } := by
    simp [turn, hrun, hturn]
  rw [hadvance]
  exact frees_advance h hrun (by simp [JobRun.isActive, hstage]) rfl

/-- A run gives its place back when its time is over. -/
theorem frees_expire (h : x.Paced) (limit : Nat) (hrun : x.run? i j = some (l, r))
    {task : Task Engine (World τ) Ticket} (hstage : r.stage = .active task) :
    x.Frees (x.expire (some limit) i j) i l.round j
      { r with stage := .ended (task.outcome?.getD (.error (.timeout limit))) } := by
  have hexpire : x.expire (some limit) i j = x.advance i j l.round r
      { r with stage := .ended (task.outcome?.getD (.error (.timeout limit))) } := by
    simp [expire, hrun, JobRun.expire, hstage]
  rw [hexpire]
  exact frees_advance h hrun (by simp [JobRun.isActive, hstage]) rfl

end Listening

/-- The runs that began, by lane, round and place in the round. -/
def beganIn (marks : List Mark) : List (Nat × Nat × Nat) :=
  marks.filterMap fun
    | .began i n j => some (i, n, j)
    | _ => none

theorem beganIn_append (marks more : List Mark) :
    beganIn (marks ++ more) = beganIn marks ++ beganIn more :=
  List.filterMap_append

namespace Logbook

variable {s : Session τ}

/-- The marks tell of the same beginnings as the logbook. -/
theorem beganIn_run (b : Logbook τ) (events : List ListenerEvent)
    (h : beganIn (runMarks b.listening.marks) = b.begun.map fun y => (y.lane, y.round, y.run)) :
    beganIn (runMarks (b.run events).listening.marks) =
      (b.run events).begun.map fun y => (y.lane, y.round, y.run) := by
  induction events generalizing b with
  | nil => exact h
  | cons event events ih =>
    refine ih (b.step event) ?_
    have hmoves := b.listening.moves_step b.session event
    change beganIn (runMarks (b.listening.step b.session event).1.marks) =
      (b.begun ++ (b.listening.begins? event).toList).map fun y => (y.lane, y.round, y.run)
    generalize b.listening.begins? event = begun at hmoves
    cases hmoves with
    | begins i n j runs r r' before place queued active room works marks =>
      rw [marks, beganIn_append, h]
      simp [beganIn]
    | ends i n j runs r r' before place active ended works marks =>
      rw [marks, beganIn_append, h]
      simp [beganIn]
    | rests works marks => simpa [marks] using h
    | opens i n runs before queued works marks => simpa [marks] using h
    | closes i n runs before ended works marks => simpa [marks] using h
    | goesOn i n j runs r r' before place active active' works marks => simpa [marks] using h

/-- The update and the job of a run that began. -/
theorem Routed.job_of_begun {b : Logbook τ} (h : b.Routed s) (hpaced : b.listening.Paced)
    (hbegan : beganIn (runMarks b.listening.marks) =
      b.begun.map fun y => (y.lane, y.round, y.run)) {y : Beginning} (hy : y ∈ b.begun) :
    ∃ d, (readAs (b.answersOf y.lane))[y.round]? = some (d, y.update) ∧
      (s.config.jobsOf d.subscription.triggerName)[y.run]? = some y.job := by
  have hmark : .began y.lane y.round y.run ∈ runMarks b.listening.marks := by
    have hmem : (y.lane, y.round, y.run) ∈ beganIn (runMarks b.listening.marks) := by
      rw [hbegan]
      exact List.mem_map_of_mem hy
    obtain ⟨m, hm, hsome⟩ := List.mem_filterMap.mp hmem
    cases m with
    | began i n j =>
      cases hsome
      exact hm
    | _ => cases hsome
  obtain ⟨m, runs, hwork, -⟩ := hpaced.began _ _ _ hmark
  obtain ⟨l, hl, -⟩ : ∃ l, b.listening.lanes[y.lane]? = some l ∧ l.work = (m, runs) := by
    simpa [Listening.works] using hwork
  obtain ⟨given, hroutes⟩ := h.routesTo hl
  exact hroutes.jobs y (by simpa [begunIn] using hy)

/-- However the deliveries, the runs and the trackers of a session take turns, where all trackers
listen by default: a run belongs to an update that its tracker has read, and is of a job of the
trigger; it begins only after all runs for the earlier updates of the tracker have ended; no more
runs are under way at a time than there are places; and a run that ends, by itself in whatever way
or because its time is over, leaves its place to any run that waits. -/
theorem runs_begin_in_order_within_their_places (s : Session τ)
    (hnames : s.surroundings.trackers.names.Nodup) (events : List ListenerEvent) :
    let b := (Logbook.begin s).run events
    let marks := runMarks b.listening.marks
    (b.listening, b.session) =
      Listening.run (.begin s.surroundings.trackers.names fun _ => false, s) events ∧
    b.listening.lanes.map (·.tracker) = s.surroundings.trackers.names ∧
    beganIn marks = b.begun.map (fun y => (y.lane, y.round, y.run)) ∧
    (∀ y ∈ b.begun, ∃ d, (readAs (b.answersOf y.lane))[y.round]? = some (d, y.update) ∧
      (s.config.jobsOf d.subscription.triggerName)[y.run]? = some y.job) ∧
    InOrder marks ∧
    (underWay marks).length = b.listening.active ∧ b.listening.active ≤ runWidth ∧
    ∀ i j l r task, b.listening.run? i j = some (l, r) → r.stage = .active task →
      (∀ o, task.outcome? = some o → b.listening.Frees (b.listening.turn b.session i j).1
        i l.round j { r with stage := .ended o }) ∧
      ∀ limit, b.listening.Frees (b.listening.expire (some limit) i j)
        i l.round j { r with stage := .ended (task.outcome?.getD (.error (.timeout limit))) } := by
  intro b marks
  have hrouted : b.Routed s := routed_run hnames events
  have hrun : (b.listening, b.session) =
      Listening.run (.begin s.surroundings.trackers.names fun _ => false, s) events :=
    listening_run _ events
  have hpaced : b.listening.Paced := by
    rw [show b.listening = _ from congrArg Prod.fst hrun]
    exact Listening.paced_run _ _ s events
  have hbegan : beganIn marks = b.begun.map fun y => (y.lane, y.round, y.run) :=
    beganIn_run (Logbook.begin s) events rfl
  refine ⟨hrun, hrouted.trackers, hbegan, fun y hy => hrouted.job_of_begun hpaced hbegan hy,
    hpaced.inOrder, hpaced.count, hpaced.bound, fun i j l r task hr hstage => ⟨?_, ?_⟩⟩
  · exact fun o ho => Listening.frees_turn hpaced b.session hr hstage ho
  · exact fun limit => Listening.frees_expire hpaced limit hr hstage

/-- Two mails come for the desk, and the run for the first one has come to its end. -/
def twoMails : List ListenerEvent :=
  [.arrive (knock "s1"), .arrive (knock "s1"), .visit 0, .visit 1, .visit 0, .visit 1, .take 0,
    .read 0, .read 0, .start 0 0] ++ List.replicate 10 (.turn 0 0)

/-- The run for the second mail begins after that. -/
def secondMail : List ListenerEvent :=
  [.start 0 0, .turn 0 0, .next 0, .take 0, .read 0, .read 0, .start 0 0]

theorem twoMails_begin_in_order :
    receiving.surroundings.trackers.names.Nodup ∧
    (let b := (Logbook.begin receiving).run (twoMails ++ secondMail)
     runMarks b.listening.marks = [.began 0 0 0, .ended 0 0 0, .began 0 1 0] ∧
      InOrder (runMarks b.listening.marks) ∧ b.listening.active ≤ runWidth) ∧
    let b := (Logbook.begin receiving).run twoMails
    underWay (runMarks b.listening.marks) = [(0, 0, 0)] ∧
    ∃ l r o, b.listening.run? 0 0 = some (l, r) ∧
      b.listening.Frees (b.listening.turn b.session 0 0).1 0 l.round 0 { r with stage := .ended o } := by
  have hnames : receiving.surroundings.trackers.names.Nodup := by decide
  obtain ⟨-, -, -, -, horder, -, hbound, -⟩ :=
    runs_begin_in_order_within_their_places receiving hnames (twoMails ++ secondMail)
  obtain ⟨-, -, -, -, -, -, -, hfrees⟩ :=
    runs_begin_in_order_within_their_places receiving hnames twoMails
  have hready : (((Logbook.begin receiving).run twoMails).listening.run? 0 0).any
      (fun lr => lr.2.isActive && (lr.2.turn receiving).1.hasEnded) = true := by
    decide +kernel
  obtain ⟨⟨l, r⟩, hrun, hends⟩ := (Option.any_eq_true _ _).mp hready
  obtain ⟨hactive, hended⟩ := Bool.and_eq_true_iff.mp hends
  obtain ⟨task, o, hstage, ho⟩ := Listening.outcome_of_turn hactive hended
  exact ⟨hnames, ⟨by decide +kernel, horder, hbound⟩, by decide +kernel, l, r, o, hrun,
    (hfrees 0 0 l r task hrun hstage).1 o ho⟩

end Logbook
end TicketSync.Engine
