import Flotation.Proofs.Session.ScopedLogging

/-! Scopes of buffered logging inside each other. All of them share one buffer, and whichever is closed empties
it, so that a scope holds its entries only up to the end of the next scope inside it. -/
namespace Flotation

namespace Slot

/-- The slot after a series of batches has come to its turn. -/
def supplied (batches : List (List Entry)) (s : Slot) : Slot := batches.foldl (fun slot batch => slot.served batch) s

/-- What the sink is handed of a series of batches. -/
def parcels (s : Slot) (batches : List (List Entry)) : List (List Entry) :=
  (batches.map s.admitted).filter fun batch => !batch.isEmpty

theorem supplied_append (first later : List (List Entry)) (s : Slot) :
    s.supplied (first ++ later) = (s.supplied first).supplied later := List.foldl_append

theorem parcels_append (s : Slot) (first later : List (List Entry)) :
    s.parcels (first ++ later) = s.parcels first ++ s.parcels later := by
  rw [parcels, List.map_append, List.filter_append]
  rfl

theorem received_served (batch : List Entry) (s : Slot) :
    (s.served batch).received = s.parcels [batch] ++ s.received := by
  rw [served, parcels, List.map_singleton, List.filter_singleton]
  cases s.admitted batch <;> rfl

theorem continues_supplied (batches : List (List Entry)) (s : Slot) : Continues s (s.supplied batches) := by
  induction batches generalizing s with
  | nil => exact .refl s
  | cons batch rest ih => exact (s.continues_served batch).trans (ih (s.served batch))

theorem parcels_singleton (s : Slot) (batch : List Entry) :
    s.parcels [batch] = if s.admitted batch = [] then [] else [s.admitted batch] := by
  rw [parcels, List.map_singleton, List.filter_singleton]
  cases s.admitted batch <;> rfl

theorem reverse_parcels_singleton (s : Slot) (batch : List Entry) :
    (s.parcels [batch]).reverse = s.parcels [batch] := by
  rw [parcels_singleton]
  split <;> rfl

theorem received_supplied (batches : List (List Entry)) (s : Slot) :
    (s.supplied batches).received = (s.parcels batches).reverse ++ s.received := by
  induction batches generalizing s with
  | nil => rfl
  | cons batch rest ih =>
    have hs : (s.served batch).parcels rest = s.parcels rest := by
      rw [parcels, (s.continues_served batch).admitted_eq, parcels]
    have hc : s.parcels (batch :: rest) = s.parcels [batch] ++ s.parcels rest := s.parcels_append [batch] rest
    rw [supplied, List.foldl_cons, ← supplied, ih, hs, received_served, hc, List.reverse_append,
      reverse_parcels_singleton, List.append_assoc]

theorem admitted_flatten (s : Slot) (batches : List (List Entry)) :
    s.admitted batches.flatten = (batches.map s.admitted).flatten := List.filter_flatten

/-- A sink is handed nothing of the batches in which there is nothing for it. -/
theorem parcels_eq_nil {s : Slot} {batches : List (List Entry)} :
    s.parcels batches = [] ↔ s.admitted batches.flatten = [] := by
  rw [admitted_flatten, List.flatten_eq_nil_iff, parcels, List.filter_eq_nil_iff]
  simp

/-- What a scope promises a sink: nothing while it is open, and then all entries at once. -/
def Waits (entries : List Entry) (before inside after : Slot) : Prop :=
  inside.received = before.received ∧ after.received = before.parcels [entries] ++ before.received

/-- The promise is kept if there is nothing for the sink in what is delivered early. -/
theorem waits_iff {early : List (List Entry)} {left : List Entry} {before inside after : Slot}
    (hi : inside.received = (before.parcels early).reverse ++ before.received)
    (ha : after.received = before.parcels [left] ++ inside.received) :
    before.Waits (early.flatten ++ left) inside after ↔ before.admitted early.flatten = [] := by
  rw [← parcels_eq_nil]
  constructor
  · rintro ⟨hs, -⟩
    rw [hi] at hs
    exact List.reverse_eq_nil_iff.mp (List.append_left_eq_self.mp hs)
  · intro hn
    have he : before.parcels [early.flatten ++ left] = before.parcels [left] := by
      rw [parcels_singleton, parcels_singleton, admitted_append, parcels_eq_nil.mp hn, List.nil_append]
    rw [hn, List.reverse_nil, List.nil_append] at hi
    rw [Waits, he, ← hi]
    exact ⟨rfl, ha⟩

end Slot

theorem Outlook.accepted_append (o : Outlook) (first later : List Command) :
    o.accepted (first ++ later) = o.accepted first ++ (first.foldl Outlook.after o).accepted later := by
  induction first generalizing o with
  | nil => rfl
  | cons command rest ih =>
    rw [List.cons_append, accepted, accepted, ih, List.append_assoc]
    rfl

/-- What goes on in an open scope: messages, and scopes that are opened and closed again. -/
inductive ScopeBody where
  | done
  | log (level : Level) (time : Float) (message : String) (context : Option Context) (next : ScopeBody)
  | scope (inner next : ScopeBody)

namespace ScopeBody

def commands : ScopeBody → List Command
  | done => []
  | log level time message context next => .log level time message context :: next.commands
  | scope inner next => .openScope :: (inner.commands ++ .closeScope :: next.commands)

/-- What is held at the end of a body, if something was held at its start. -/
def left (o : Outlook) : ScopeBody → List Entry → List Entry
  | done, held => held
  | log level time message context next, held =>
    next.left o (held ++ o.entries (.log level time message context))
  | scope _ next, _ => next.left o []

/-- The batches that leave the buffer in a body, one whenever a scope is closed in it. The first has what was
held when the body began. -/
def early (o : Outlook) : ScopeBody → List Entry → List (List Entry)
  | done, _ => []
  | log level time message context next, held =>
    next.early o (held ++ o.entries (.log level time message context))
  | scope inner next, held => inner.early o held ++ inner.left o held :: next.early o []

/-- Neither messages nor scopes change what is accepted. -/
theorem outlook_after (o : Outlook) (body : ScopeBody) : body.commands.foldl Outlook.after o = o := by
  induction body with
  | done => rfl
  | log level time message context next ih => exact ih
  | scope inner next ihInner ihNext =>
    have hi : (Command.openScope :: inner.commands).foldl Outlook.after o = o := ihInner
    rw [commands, ← List.cons_append, List.foldl_append, hi]
    exact ihNext

/-- No entry is lost, repeated or overtaken on the way from the buffer. -/
theorem flatten_early (o : Outlook) (body : ScopeBody) (held : List Entry) :
    (body.early o held).flatten ++ body.left o held = held ++ o.accepted body.commands := by
  induction body generalizing held with
  | done => exact (List.append_nil _).symm
  | log level time message context next ih =>
    rw [early, left, ih, commands, Outlook.accepted, List.append_assoc]
    rfl
  | scope inner next ihInner ihNext =>
    have hn := ihNext []
    rw [List.nil_append] at hn
    have hc : o.accepted (scope inner next).commands = o.accepted inner.commands ++ o.accepted next.commands := by
      have ha := o.accepted_append inner.commands (.closeScope :: next.commands)
      rw [outlook_after] at ha
      exact ha
    rw [early, left, List.flatten_append, List.flatten_cons, List.append_assoc, List.append_assoc, hn, hc,
      ← List.append_assoc, ihInner, List.append_assoc]

end ScopeBody

namespace Session

/-- A command for the service of a name. -/
def asked (name : String) (command : Command) : Request := ⟨name, "main", none, command⟩

/-- The session has gone on. The sinks of the service have been supplied with these batches, and it holds these
entries; the rest of what matters to it is as before. -/
structure Supplies (name : String) (batches : List (List Entry)) (held : List Entry) (s t : Session) : Prop where
  slots_eq : (t.service name).slots = (s.service name).slots.map (Slot.supplied batches)
  pending_eq : (t.service name).pending = held
  buffering_eq : (t.service name).buffering = (s.service name).buffering
  outlook_eq : t.outlook name = s.outlook name
  scopes_eq : t.scopes = s.scopes

variable {name : String} {s t u : Session} {first later : List (List Entry)} {held kept : List Entry}

namespace Supplies

theorem refl (name : String) (s : Session) : Supplies name [] (s.service name).pending s s :=
  ⟨(List.map_id' _).symm, rfl, rfl, rfl, rfl⟩

theorem trans (h : Supplies name first held s t) (k : Supplies name later kept t u) :
    Supplies name (first ++ later) kept s u := by
  refine ⟨?_, k.pending_eq, k.buffering_eq.trans h.buffering_eq, k.outlook_eq.trans h.outlook_eq,
    k.scopes_eq.trans h.scopes_eq⟩
  rw [k.slots_eq, h.slots_eq, List.map_map]
  exact List.map_congr_left fun slot _ => (slot.supplied_append first later).symm

theorem compliant (h : Supplies name first held s t) (hc : (s.service name).Compliant) :
    (t.service name).Compliant := by
  intro slot hm
  rw [h.slots_eq] at hm
  obtain ⟨before, hb, rfl⟩ := List.mem_map.mp hm
  exact (before.continues_supplied first).compliant (hc before hb)

end Supplies

/-- A message that is accepted while the service is buffering is held. -/
theorem log_supplies (hc : (s.service name).Compliant) (hb : (s.service name).buffering = true) (level : Level)
    (time : Float) (message : String) (context : Option Context) :
    ∃ t, (perform (asked name (.log level time message context))).run s = (.returned .nothing, t) ∧
      Supplies name [] ((s.service name).pending ++
        (s.outlook name).entries (.log level time message context)) s t := by
  have hst : (stationFor name s).service.Compliant := hc
  obtain ⟨st, hr, hs⟩ :=
    Station.logEntry_compliant hst ⟨level, time, message, context.getD s.station.context⟩
  have hservice : (settle name st s).service name = (s.service name).logged _ :=
    (service_settle name st s).trans hs.service_eq
  refine ⟨settle name st s, ?_, ?_, ?_, ?_, ?_, scopes_settle name st s⟩
  · exact (log_run _ _ _ _ _ _ _ s).trans (atService_returned hr)
  · rw [hservice, Service.logged, hb, if_pos rfl]
    split <;> exact (List.map_id' _).symm
  · rw [hservice, Service.logged, hb, if_pos rfl, entries_log, Service.accepted]
    split
    · exact Service.pending_hold _ _
    · exact (List.append_nil _).symm
  · rw [hservice, Service.buffering_logged]
  · rw [outlook, hservice, Service.threshold_logged, context_settle, contexts_settle, hs.context_eq]
    rfl

/-- The session with a scope for the service of a name opened in it. -/
def opened (name : String) (s : Session) : Session :=
  let st : Station := { stationFor name s with service := (s.service name).buffer true }
  { settle name st s with scopes := (name, (s.service name).buffering) :: s.scopes }

theorem openScope_run (name : String) (s : Session) :
    (perform (asked name .openScope)).run s = (.returned .nothing, s.opened name) := by
  have hs := scopes_settle name { stationFor name s with service := (s.service name).buffer true } s
  rw [opened, ← hs]
  rfl

theorem service_opened (name : String) (s : Session) :
    (s.opened name).service name = (s.service name).buffer true := service_settle name _ s

theorem outlook_opened (name : String) (s : Session) : (s.opened name).outlook name = s.outlook name := by
  have hc : (s.opened name).station.context = s.station.context := context_settle name _ s
  have hs : (s.opened name).contexts = s.contexts := contexts_settle name _ s
  rw [outlook, service_opened, hc, hs]
  rfl

/-- Closing a scope supplies the sinks with all that is held, whichever scope it was logged in. -/
theorem scope_supplies (hc : (s.service name).Compliant) (h : Supplies name first held (s.opened name) t) :
    ∃ u, (perform (asked name .closeScope)).run t = (.returned .nothing, u) ∧
      Supplies name (first ++ [held]) [] s u := by
  have hopened : ((s.opened name).service name).Compliant := by
    rw [service_opened]
    exact hc
  have hst : (stationFor name t).service.Compliant := h.compliant hopened
  obtain ⟨st, hr, hs⟩ := Station.closeScope_compliant hst (s.service name).buffering
  let left : Session := { t with scopes := s.scopes }
  have hservice : (settle name st left).service name =
      (t.service name).flushed.buffer (s.service name).buffering :=
    (service_settle name st left).trans hs.service_eq
  refine ⟨settle name st left, quietly_returned (closeScope_run h.scopes_eq hr), ?_, ?_, ?_, ?_,
    scopes_settle name st left⟩
  · rw [hservice]
    change (t.service name).slots.map (·.served (t.service name).pending) = _
    rw [h.slots_eq, h.pending_eq, service_opened, List.map_map]
    exact List.map_congr_left fun slot _ => (slot.supplied_append first [held]).symm
  · rw [hservice]
    rfl
  · rw [hservice]
    rfl
  · rw [← outlook_opened name s, ← h.outlook_eq, outlook, hservice, context_settle, contexts_settle, hs.context_eq]
    rfl

/-- A step of a course that returns. -/
private theorem after_returned {r : Request} (h : (perform r).run s = (.returned .nothing, t))
    (rest : List Request) : s.after (r :: rest) = t.after rest := by
  rw [after_cons (by simp [h]), h]

/-- A body in an open scope. The course goes on behind it. -/
theorem body_supplies (body : ScopeBody) (hc : (s.service name).Compliant)
    (hb : (s.service name).buffering = true) :
    ∃ t, (∀ rest, s.after (body.commands.map (asked name) ++ rest) = t.after rest) ∧
      Supplies name (body.early (s.outlook name) (s.service name).pending)
        (body.left (s.outlook name) (s.service name).pending) s t := by
  induction body generalizing s with
  | done => exact ⟨s, fun _ => rfl, .refl name s⟩
  | log level time message context next ih =>
    obtain ⟨t, hr, h⟩ := log_supplies hc hb level time message context
    obtain ⟨u, hu, k⟩ := ih (h.compliant hc) (h.buffering_eq.trans hb)
    rw [h.pending_eq, h.outlook_eq] at k
    exact ⟨u, fun rest => (after_returned hr _).trans (hu rest), h.trans k⟩
  | scope inner next ihInner ihNext =>
    obtain ⟨t, ht, hin⟩ := ihInner (s := s.opened name)
      (by rw [service_opened]; exact hc) (by rw [service_opened]; rfl)
    rw [outlook_opened, service_opened] at hin
    obtain ⟨u, hr, hout⟩ := scope_supplies hc hin
    obtain ⟨v, hv, hnext⟩ := ihNext (hout.compliant hc) (hout.buffering_eq.trans hb)
    rw [hout.pending_eq, hout.outlook_eq] at hnext
    refine ⟨v, fun rest => ?_, ?_⟩
    · rw [ScopeBody.commands, List.map_cons, List.map_append, List.map_cons, List.cons_append,
        List.append_assoc, after_returned (openScope_run name s), ht, List.cons_append, after_returned hr, hv]
    · have hall := hout.trans hnext
      rw [List.append_assoc] at hall
      exact hall

/-- Messages and scopes inside a scope of a service that was not buffering and held nothing, under sinks that
never refuse. The sinks are handed a batch whenever a scope inside is closed, and one more at the end, of which
none is empty; together these are the accepted entries in order. So a scope keeps its promise to just those sinks
that admit nothing of what is logged before the last scope inside is closed. -/
theorem scope_holds_until_inner_scopes_close (name : String) (s : Session) (body : ScopeBody)
    (hc : (s.service name).Compliant) (hb : (s.service name).buffering = false)
    (hh : (s.service name).held = []) :
    ∃ early left inside after,
      early = body.early (s.outlook name) [] ∧ left = body.left (s.outlook name) [] ∧
      early.flatten ++ left = (s.outlook name).accepted body.commands ∧
      s.after ((.openScope :: body.commands).map (asked name)) = some inside ∧
      inside.after [asked name .closeScope] = some after ∧
      (after.service name).buffering = false ∧ (after.service name).held = [] ∧ after.scopes = s.scopes ∧
      ∀ (place : Nat) (slot : Slot), (s.service name).slots[place]? = some slot →
        ∃ within closed : Slot, (inside.service name).slots[place]? = some within ∧
          (after.service name).slots[place]? = some closed ∧
          within.received = (slot.parcels early).reverse ++ slot.received ∧
          closed.received = slot.parcels [left] ++ within.received ∧
          (slot.Waits ((s.outlook name).accepted body.commands) within closed ↔
            slot.admitted early.flatten = []) := by
  have hp : (s.service name).pending = [] := Service.pending_eq_nil.mpr hh
  obtain ⟨inside, hrun, hin⟩ := body_supplies (s := s.opened name) body
    (by rw [service_opened]; exact hc) (by rw [service_opened]; rfl)
  rw [outlook_opened, service_opened] at hin
  change Supplies name (body.early _ (s.service name).pending) (body.left _ (s.service name).pending) _ _ at hin
  rw [hp] at hin
  obtain ⟨after, hclose, hout⟩ := scope_supplies hc hin
  have hall := body.flatten_early (s.outlook name) []
  rw [List.nil_append] at hall
  refine ⟨_, _, inside, after, rfl, rfl, hall, ?_, ?_, hout.buffering_eq.trans hb,
    Service.pending_eq_nil.mp hout.pending_eq, hout.scopes_eq, fun place slot hs => ?_⟩
  · rw [List.map_cons, after_returned (openScope_run name s), ← List.append_nil (body.commands.map _), hrun]
    rfl
  · rw [after_returned hclose]
    rfl
  · have hi := slot.received_supplied (body.early (s.outlook name) [])
    have ha := slot.received_supplied (body.early (s.outlook name) [] ++ [body.left (s.outlook name) []])
    rw [Slot.parcels_append, List.reverse_append, Slot.reverse_parcels_singleton, List.append_assoc, ← hi] at ha
    have hplace : ((s.opened name).service name).slots[place]? = some slot := by
      rw [service_opened]
      exact hs
    refine ⟨_, _, ?_, ?_, hi, ha, ?_⟩
    · rw [hin.slots_eq, List.getElem?_map, hplace]
      rfl
    · rw [hout.slots_eq, List.getElem?_map, hs]
      rfl
    · rw [← hall]
      exact Slot.waits_iff hi ha

/-- A message for both sinks, one for the first alone in a scope of its own, and one behind that scope. -/
def reentrant : ScopeBody :=
  .log .warning 0.0 "outside" none
    (.scope (.log .info 1.0 "inside" none .done) (.log .info 2.0 "behind" none .done))

/-- Both sinks get their part of the first message early, and the second sink gets nothing at the end. -/
theorem reentrant_scope_holds_until :
    (watched.service sharedService).Compliant ∧ (watched.service sharedService).buffering = false ∧
      (watched.service sharedService).held = [] ∧
      ∃ inside after,
        watched.after ((.openScope :: reentrant.commands).map (asked sharedService)) = some inside ∧
        inside.after [asked sharedService .closeScope] = some after ∧
        (after.service sharedService).buffering = false ∧ (after.service sharedService).held = [] ∧
        ∀ (place : Nat) (slot : Slot), (watched.service sharedService).slots[place]? = some slot →
          ∃ within closed : Slot, (inside.service sharedService).slots[place]? = some within ∧
            (after.service sharedService).slots[place]? = some closed ∧
            within.received = (slot.parcels [[⟨.warning, 0.0, "outside", {}⟩, ⟨.info, 1.0, "inside", {}⟩]]).reverse ++
              slot.received ∧
            closed.received = slot.parcels [[⟨.info, 2.0, "behind", {}⟩]] ++ within.received := by
  obtain ⟨early, left, inside, after, rfl, rfl, -, hi, ha, hb, hh, -, hs⟩ :=
    scope_holds_until_inner_scopes_close sharedService watched reentrant watched_compliant rfl rfl
  refine ⟨watched_compliant, rfl, rfl, inside, after, hi, ha, hb, hh, fun place slot hslot => ?_⟩
  obtain ⟨within, closed, hwithin, hclosed, hr, hl, -⟩ := hs place slot hslot
  exact ⟨within, closed, hwithin, hclosed, hr, hl⟩

/-- With the outer scope still open, both sinks have got what was logged in it, and later they do not get
everything at once. -/
theorem reentrant_scope_delivers_early :
    ∃ inside after,
      watched.after ((.openScope :: reentrant.commands).map (asked sharedService)) = some inside ∧
      inside.after [asked sharedService .closeScope] = some after ∧
      inside.scopes = [(sharedService, false)] ∧
      (inside.service sharedService).slots.map Slot.received =
        [[[⟨.warning, 0.0, "outside", {}⟩, ⟨.info, 1.0, "inside", {}⟩]], [[⟨.warning, 0.0, "outside", {}⟩]]] ∧
      (after.service sharedService).slots.map Slot.received =
        [[[⟨.info, 2.0, "behind", {}⟩], [⟨.warning, 0.0, "outside", {}⟩, ⟨.info, 1.0, "inside", {}⟩]],
          [[⟨.warning, 0.0, "outside", {}⟩]]] :=
  ⟨_, _, rfl, rfl, rfl, rfl, rfl⟩

end Session
end Flotation
