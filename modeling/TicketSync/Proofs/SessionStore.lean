import TicketSync.Proofs.SessionHistory

/-! # The store in the life of a session

One step of a session changes the subscriptions only by the exchange that it completes. So rows are
created and linked by registrations only, and deleted by removals only. -/
namespace TicketSync.Engine

variable {τ : Type} {s : Session τ} {c : Chronicle τ}

/-- A script whose every row comes from a registration: it deletes nothing. -/
abbrev DeletesNothing (q : Dialogue.Question Engine) : Prop := ∀ id, q ≠ .deleteSubscription id

/-- A question that stores nothing new: it may delete a subscription. -/
abbrev OnlyDeletes (q : Dialogue.Question Engine) : Prop :=
  Question.writesRows q = true → ∃ id, q = .deleteSubscription id

theorem register_asks {p : Dialogue.Question Engine → Prop} (baseUrl : String) (t : Trigger)
    (hregistered : p (.isRegistered t.tracker)) (hrender : p (.render t.vars {} {})) (hnow : p .now)
    (hcreate : ∀ x, p (.createSubscription x)) (hsubscribe : ∀ r, p (.subscribe t.tracker r))
    (hfind : ∀ id, p (.findSubscription id)) (hupdate : ∀ x, p (.updateSubscription x)) :
    (register baseUrl t).Asks p := by
  refine Script.Asks.bind (asks_requireTracker hregistered) fun _ => ?_
  refine ⟨hrender, fun r => asks_outcome (r := r) fun vars => ?_⟩
  refine Script.Asks.bind ⟨hnow, fun createdAt => ⟨hcreate _, fun r => ?_⟩⟩ fun x => ?_
  · exact asks_outcome (r := r) fun id => trivial
  · refine ⟨hsubscribe _, fun r => asks_outcome (r := r) fun ref => ?_⟩
    refine Script.Asks.bind ?_ fun _ => trivial
    refine Script.Asks.bind ⟨hfind _, fun r => Script.asks_ofOutcome p r⟩ fun y => ?_
    exact ⟨hupdate _, fun r => asks_outcome (r := r) fun _ => trivial⟩

theorem discard_asks {p : Dialogue.Question Engine → Prop} {id : String}
    (hdelete : p (.deleteSubscription id)) : (discard id).Asks p :=
  ⟨hdelete, fun _ => trivial⟩

theorem remove_asks {p : Dialogue.Question Engine → Prop} (x : Subscription)
    (hregistered : p (.isRegistered x.trackerName))
    (hunsubscribe : ∀ ref, x.trackerRef = some ref → p (.unsubscribe x.trackerName ref))
    (hdelete : p (.deleteSubscription x.id)) : (remove x).Asks p := by
  unfold remove
  split
  · exact discard_asks hdelete
  · next ref href =>
    refine ⟨hregistered, ?_⟩
    rintro (_ | _)
    · exact trivial
    · refine ⟨hunsubscribe ref href, fun a => ?_⟩
      cases h : isGone a with
      | true => simpa [h] using discard_asks hdelete
      | false => simp [h, Script.Asks]

namespace Chronicle

theorem map_snd_map {α β : Type} (who : α) (x : Option β) : (x.map (who, ·)).map (·.2) = x := by
  cases x <;> rfl

theorem listingOf_sameRows (s : Session τ) (tracker : String) :
    s.world.SameRows (s.listingOf tracker).2 := by
  have hread : Question.writesRows (.listSubscriptions (trackerFilter tracker)) = false := rfl
  obtain ⟨hasked, hanswered⟩ := World.handler_sameRows (e := s.surroundings) hread s.world
  exact hasked.trans (hanswered _)

theorem listing_sameRows (s : Session τ) : s.world.SameRows s.listing.2 :=
  listingOf_sameRows s ""

theorem listen_world {l : Life τ} {x : Listening τ} (hstage : l.stage = .listening x)
    (e : ListenerEvent) : (l.listen e).session.world = (x.step l.session e).2.world := by
  simp only [Life.listen, hstage]
  split <;> rfl

/-- What an event does to the subscriptions is what the exchange does that it completes. -/
theorem rowEffect_step (h : c.Sound s) (event : LifeEvent) :
    World.RowEffect s.surroundings c.world (c.step event).world
      ((c.life.told? event).map (·.2)) := by
  have hlife : (c.step event).world = (c.life.step event).session.world := rfl
  have hstands := h.stands
  have hsurroundings := h.surroundings
  have hhappens := c.life.happens event
  rw [hlife]
  generalize c.life.asked? event = asked? at *
  generalize c.life.told? event = told? at *
  generalize c.life.heard? event = heard? at *
  generalize c.life.step event = l' at *
  cases hhappens with
  | @registration i pool stage cancelled =>
    rw [stage] at hstands
    rw [Life.registered_world, map_snd_map, hsurroundings]
    exact World.rowEffect_of_turn (hstands.2.1.turn c.world i)
  | @listening e x stage =>
    rw [stage] at hstands
    have hreads : x.ReadsRows c.life.session.surroundings := by
      rw [hsurroundings]
      exact hstands.2.2.1
    rw [listen_world stage]
    exact .kept (hreads.step e).2.rows (by simp)
  | listed stage answer =>
    rw [Life.unregistered_world]
    exact .refused (listing_sameRows c.life.session) rfl
  | unlisted stage answer => exact .refused (listing_sameRows c.life.session) rfl
  | @removal i r pool stage =>
    rw [stage] at hstands
    obtain ⟨registered, xs, -, -, -, -, hpool⟩ := hstands
    rw [Life.unregistered_world, map_snd_map, hsurroundings]
    exact World.rowEffect_of_turn (hpool.turn c.world i)
  | expired stage => exact .kept (.refl _) (by simp)
  | cancelled => exact .kept (World.sameRows_of_eq rfl rfl rfl) (by simp)
  | nothing event => exact .kept (.refl _) (by simp)

theorem keyed_step (h : c.Sound s) (hkeyed : c.world.store.Keyed) (event : LifeEvent) :
    (c.step event).world.store.Keyed :=
  (rowEffect_step h event).keyed hkeyed

/-- Every answer in a history is one that the surroundings give. -/
theorem gives_step (h : c.Sound s) (event : LifeEvent) :
    ∀ y, c.life.told? event = some y → (World.handler s.surroundings).Gives y.2 := by
  have hstands := h.stands
  have hsurroundings := h.surroundings
  have hhappens := c.life.happens event
  have hgives : ∀ {q? : Option (Dialogue.Question Engine)} {x? : Option (Exchange Engine)}
      {w' : World τ} {who : Asker}, Task.Turn (World.handler s.surroundings) c.world q? x? w' →
      ∀ y, x?.map (who, ·) = some y → (World.handler s.surroundings).Gives y.2 := by
    intro q? x? w' who hturn y hy
    obtain ⟨x, hx, rfl⟩ := Option.map_eq_some_iff.mp hy
    exact hturn.gives x hx
  have hlisting : (World.handler s.surroundings).Gives
      ⟨.listSubscriptions none, c.life.session.listing.1⟩ := by
    rw [← hsurroundings]
    exact ⟨c.world, (World.handler c.life.session.surroundings (.listSubscriptions none) c.world).2,
      rfl⟩
  generalize c.life.asked? event = asked? at *
  generalize c.life.told? event = told? at *
  generalize c.life.heard? event = heard? at *
  generalize c.life.step event = l' at *
  cases hhappens with
  | @registration i pool stage cancelled =>
    rw [stage] at hstands
    rw [hsurroundings]
    exact hgives (hstands.2.1.turn c.world i)
  | listening stage => simp
  | listed stage answer =>
    rintro y ⟨⟩
    rwa [answer] at hlisting
  | unlisted stage answer =>
    rintro y ⟨⟩
    rwa [answer] at hlisting
  | @removal i r pool stage =>
    rw [stage] at hstands
    obtain ⟨registered, xs, -, -, -, -, hpool⟩ := hstands
    rw [hsurroundings]
    exact hgives (hpool.turn c.world i)
  | expired stage => simp
  | cancelled => simp
  | nothing event => simp

theorem gives_of_step (h : c.Sound s)
    (hgiven : ∀ y ∈ c.told, (World.handler s.surroundings).Gives y.2) (event : LifeEvent) :
    ∀ y ∈ (c.step event).told, (World.handler s.surroundings).Gives y.2 := by
  intro y hy
  rcases List.mem_append.mp hy with hy | hy
  · exact hgiven y hy
  · exact gives_step h event y (Option.mem_toList.mp hy)

end Chronicle

theorem isRegistered_given {e : Surroundings τ} {tracker : String} {known : Bool}
    (h : (World.handler e).Gives ⟨.isRegistered tracker, known⟩) :
    known = decide (tracker ∈ e.trackers.names) := by
  obtain ⟨w, w', hknown⟩ := h
  exact hknown

/-- Whether a session takes itself down, or has done so. -/
def Phase.isTeardown : Phase → Bool
  | unregistering | stopped => true
  | _ => false

namespace Chronicle

/-- A teardown goes on as one, and it writes no ticket. -/
theorem teardown_step (h : c.Sound s) (hdown : c.life.stage.phase.isTeardown = true)
    (event : LifeEvent) : (c.step event).life.stage.phase.isTeardown = true ∧
      c.world.SameTickets (c.step event).world := by
  have hlife : (c.step event).world = (c.life.step event).session.world := rfl
  have hstage : (c.step event).life.stage = (c.life.step event).stage := rfl
  have hstands := h.stands
  have hsurroundings := h.surroundings
  have hhappens := c.life.happens event
  have hlisting : c.world.SameTickets c.life.session.listing.2 := by
    have hread : Question.writesTickets (.listSubscriptions none) = false := rfl
    have hrespects := World.respects_tickets c.life.session.surroundings
    exact hrespects.trans (hrespects.asked _ _ hread) (hrespects.answered _ _ _ hread)
  rw [hlife, hstage]
  generalize c.life.asked? event = asked? at *
  generalize c.life.told? event = told? at *
  generalize c.life.heard? event = heard? at *
  generalize c.life.step event = l' at *
  cases hhappens with
  | registration stage cancelled => simp [stage, LifeStage.phase, Phase.isTeardown] at hdown
  | listening stage => simp [stage, LifeStage.phase, Phase.isTeardown] at hdown
  | listed stage answer =>
    rw [Life.unregistered_world]
    refine ⟨?_, hlisting⟩
    unfold Life.unregistered
    split <;> rfl
  | unlisted stage answer => exact ⟨rfl, hlisting⟩
  | @removal i r pool stage =>
    rw [stage] at hstands
    obtain ⟨registered, xs, -, -, -, -, hpool⟩ := hstands
    rw [Life.unregistered_world, hsurroundings]
    refine ⟨?_, hpool.respects ?_ (World.respects_tickets s.surroundings) c.world i⟩
    · unfold Life.unregistered
      split <;> rfl
    · intro script hscript
      obtain ⟨x, -, rfl⟩ := List.mem_map.mp hscript
      exact remove_asks x rfl (fun _ _ => rfl) rfl
  | expired stage => exact ⟨rfl, fun _ => rfl⟩
  | cancelled => exact ⟨hdown, fun _ => rfl⟩
  | nothing event => exact ⟨hdown, fun _ => rfl⟩

end Chronicle
end TicketSync.Engine
