import Flotation.Proofs.Session.Interruptions
import Mathlib.Data.List.Induction

/-! The order of delivery while buffering is switched on and off by hand. Switching it off delivers nothing, so a
message can be delivered while earlier ones are held, and it overtakes just those. -/
namespace Flotation

/-- What a service has accepted, every entry with its number: the entries given to the sinks, in the order of
delivery, and the ones that are held. -/
structure Docket where
  given : List (Entry × Nat)
  held : List (Entry × Nat)
  buffering : Bool

/-- The docket of a service from which nothing is given yet. -/
def Service.docket (s : Service) : Docket := ⟨[], s.pending.zipIdx, s.buffering⟩

namespace Docket

/-- The numbers in the order in which the sinks get their entries, if a flush comes next. -/
def numbers (d : Docket) : List Nat := (d.given ++ d.held).map Prod.snd

/-- The number of the next entry. -/
def next (d : Docket) : Nat := (d.given ++ d.held).length

/-- While the service is buffering the entry is held, otherwise it goes straight to the sinks. -/
def accept (d : Docket) (entry : Entry) : Docket :=
  if d.buffering then { d with held := d.held ++ [(entry, d.next)] }
  else { d with given := d.given ++ [(entry, d.next)] }

def after (o : Outlook) (d : Docket) : Command → Docket
  | .log level time message context => (o.entries (.log level time message context)).foldl accept d
  | .buffer buffering => { d with buffering }
  | .flush => { d with given := d.given ++ d.held, held := [] }
  | _ => d

def course (o : Outlook) (d : Docket) (commands : List Command) : Docket := commands.foldl (after o) d

/-- The next entry is delivered at once, and passes by an entry that is held. -/
def Passes (d : Docket) (later earlier : Nat) : Prop :=
  d.buffering = false ∧ later = d.next ∧ earlier ∈ d.held.map Prod.snd

/-- In the course of some commands one entry is logged that passes by another. -/
def Overtakes (o : Outlook) (d : Docket) (commands : List Command) (later earlier : Nat) : Prop :=
  ∃ before command rest entry, commands = before ++ command :: rest ∧ o.entries command = [entry] ∧
    (d.course o before).Passes later earlier

variable {o : Outlook} {d : Docket} {commands : List Command} {command : Command} {entry : Entry} {i j : Nat}

theorem entries_cases (o : Outlook) (command : Command) :
    o.entries command = [] ∨ ∃ entry, o.entries command = [entry] := by
  cases command with
  | log level time message context =>
    rw [Outlook.entries]
    split_ifs
    · exact .inr ⟨_, rfl⟩
    · exact .inl rfl
  | _ => exact .inl rfl

theorem course_concat (o : Outlook) (d : Docket) (commands : List Command) (command : Command) :
    d.course o (commands ++ [command]) = (d.course o commands).after o command := List.foldl_concat _ _ _ _

/-- What a command that logs nothing leaves is in the same order. -/
theorem numbers_after (h : o.entries command = []) (d : Docket) : (d.after o command).numbers = d.numbers := by
  cases command with
  | flush => exact congrArg (List.map Prod.snd) (List.append_nil _)
  | log => rw [after, h, List.foldl_nil]
  | _ => rfl

theorem after_log (h : o.entries command = [entry]) (d : Docket) : d.after o command = d.accept entry := by
  cases command with
  | log => rw [after, h]; rfl
  | _ => cases h

/-- An entry in front of others comes before those. -/
theorem pair_sublist_insert {x : Nat} {front back : List Nat} (hx : i = x → j ∉ front) :
    [j, i].Sublist (front ++ x :: back) ↔ [j, i].Sublist (front ++ back) ∨ j = x ∧ i ∈ back := by
  induction front with
  | nil => simp only [List.nil_append, List.cons_sublist_cons', List.singleton_sublist]
  | cons y front ih =>
    have hi := ih fun he hm => hx he (List.mem_cons_of_mem y hm)
    simp only [List.cons_append, List.cons_sublist_cons', hi, List.singleton_sublist, List.mem_append, List.mem_cons]
    constructor
    · rintro ((h | h) | ⟨rfl, h | rfl | h⟩)
      · exact .inl (.inl h)
      · exact .inr h
      · exact .inl (.inr ⟨rfl, .inl h⟩)
      · exact absurd List.mem_cons_self (hx rfl)
      · exact .inl (.inr ⟨rfl, .inr h⟩)
    · rintro ((h | ⟨rfl, h | h⟩) | h)
      · exact .inl (.inl h)
      · exact .inr ⟨rfl, .inl h⟩
      · exact .inr ⟨rfl, .inr (.inr h)⟩
      · exact .inl (.inr h)

/-- An entry comes before an earlier one if it did so already or passes by it now. -/
theorem accept_precedes (hij : i < j) (hlt : ∀ n ∈ d.numbers, n < d.next) :
    [j, i].Sublist (d.accept entry).numbers ↔ [j, i].Sublist d.numbers ∨ d.Passes j i := by
  have hx : i = d.next → j ∉ d.numbers := fun he hm => Nat.lt_asymm hij (he ▸ hlt j hm)
  rw [accept, Passes]
  cases d.buffering with
  | true =>
    have hn : numbers { d with held := d.held ++ [(entry, d.next)], buffering := true } = d.numbers ++ [d.next] := by
      simp [numbers]
    rw [if_pos rfl, hn, pair_sublist_insert hx, List.append_nil]
    simp
  | false =>
    have hn : numbers { d with given := d.given ++ [(entry, d.next)], buffering := false } =
        d.given.map Prod.snd ++ d.next :: d.held.map Prod.snd := by
      simp [numbers]
    have hg : d.numbers = d.given.map Prod.snd ++ d.held.map Prod.snd := List.map_append
    rw [if_neg Bool.false_ne_true, hn, pair_sublist_insert, ← hg]
    · simp
    · intro he hm
      exact hx he (hg ▸ List.mem_append_left _ hm)

/-- Every entry that was accepted is given or held once, with its number. -/
def Complete (accepted : List Entry) (d : Docket) : Prop := (d.given ++ d.held).Perm accepted.zipIdx

namespace Complete
variable {accepted : List Entry}

theorem next_eq (h : d.Complete accepted) : d.next = accepted.length := by
  rw [next, h.length_eq, List.length_zipIdx]

theorem numbers_lt (h : d.Complete accepted) : ∀ n ∈ d.numbers, n < d.next := by
  intro n hn
  have hm := (h.map Prod.snd).mem_iff.mp hn
  rw [List.zipIdx_map_snd, List.mem_range'_1] at hm
  rw [h.next_eq]
  omega

theorem accept (h : d.Complete accepted) (entry : Entry) : (d.accept entry).Complete (accepted ++ [entry]) := by
  have hz : (accepted ++ [entry]).zipIdx = accepted.zipIdx ++ [(entry, d.next)] := by
    rw [List.zipIdx_append, h.next_eq, Nat.zero_add]
    rfl
  rw [Complete, hz]
  refine .trans ?_ (h.append_right _)
  rw [Docket.accept]
  cases d.buffering with
  | true => exact .of_eq (List.append_assoc _ _ _).symm
  | false =>
    change (d.given ++ [(entry, d.next)] ++ d.held).Perm _
    rw [List.append_assoc, List.append_assoc]
    exact List.Perm.append_left _ List.perm_append_comm

theorem after (h : d.Complete accepted) (o : Outlook) (command : Command) :
    (d.after o command).Complete (accepted ++ o.entries command) := by
  rcases entries_cases o command with he | ⟨entry, he⟩
  · rw [he, List.append_nil]
    cases command with
    | flush =>
      rw [Complete, Docket.after, List.append_nil]
      exact h
    | log =>
      rw [Docket.after, he]
      exact h
    | _ => exact h
  · rw [after_log he, he]
    exact h.accept entry

theorem course (h : d.Complete accepted) (o : Outlook) (commands : List Command) :
    (d.course o commands).Complete (accepted ++ commands.flatMap o.entries) := by
  induction commands generalizing d accepted with
  | nil =>
    rw [List.flatMap_nil, List.append_nil]
    exact h
  | cons command rest ih =>
    rw [List.flatMap_cons, ← List.append_assoc]
    exact ih (h.after o command)

/-- In the order of their numbers the entries are in the order in which they were accepted. -/
theorem eq_zipIdx (h : d.Complete accepted) (hs : ∀ i j, i < j → ¬[j, i].Sublist d.numbers) :
    d.given ++ d.held = accepted.zipIdx := by
  have hz : accepted.zipIdx.Pairwise fun x y => x.2 ≤ y.2 := by
    have hr : (accepted.zipIdx.map Prod.snd).Pairwise (· ≤ ·) := by
      rw [List.zipIdx_map_snd]
      exact List.pairwise_le_range'
    exact List.pairwise_map.mp hr
  have hd : (d.given ++ d.held).Pairwise fun x y => x.2 ≤ y.2 :=
    List.pairwise_of_forall_sublist fun {x y} hxy => Nat.not_lt.mp fun hlt => hs _ _ hlt (hxy.map Prod.snd)
  refine List.Perm.eq_of_pairwise (fun x y hx hy hle hge => ?_) hd hz h
  have hn : x.2 = y.2 := Nat.le_antisymm hle hge
  have hxe := List.mem_zipIdx_iff_getElem?.mp (h.mem_iff.mp hx)
  have hye := List.mem_zipIdx_iff_getElem?.mp hy
  rw [← hn, hxe] at hye
  exact Prod.ext (Option.some.inj hye) hn

end Complete

/-- One more command overtakes an entry or does not. -/
theorem overtakes_concat :
    d.Overtakes o (commands ++ [command]) j i ↔
      d.Overtakes o commands j i ∨ (∃ entry, o.entries command = [entry]) ∧ (d.course o commands).Passes j i := by
  constructor
  · rintro ⟨before, c, rest, entry, hc, he, hp⟩
    rcases List.eq_nil_or_concat rest with rfl | ⟨rest, last, rfl⟩
    · obtain ⟨rfl, hl⟩ := List.append_inj' hc rfl
      obtain rfl : command = c := List.singleton_inj.mp hl
      exact .inr ⟨⟨entry, he⟩, hp⟩
    · rw [List.concat_eq_append, ← List.cons_append, ← List.append_assoc] at hc
      obtain ⟨rfl, -⟩ := List.append_inj' hc rfl
      exact .inl ⟨before, c, rest, entry, rfl, he, hp⟩
  · rintro (⟨before, c, rest, entry, rfl, he, hp⟩ | ⟨⟨entry, he⟩, hp⟩)
    · exact ⟨before, c, rest ++ [command], entry, by simp, he, hp⟩
    · exact ⟨commands, command, [], entry, rfl, he, hp⟩

/-- From a docket that is in order, an entry gets in front of an earlier one just by overtaking it. -/
theorem precedes_iff_overtakes {accepted : List Entry} (o : Outlook) (commands : List Command)
    (h : d.Complete accepted) (hs : ¬[j, i].Sublist d.numbers) (hij : i < j) :
    [j, i].Sublist (d.course o commands).numbers ↔ d.Overtakes o commands j i := by
  induction commands using List.reverseRecOn with
  | nil =>
    refine iff_of_false hs ?_
    rintro ⟨before, command, rest, entry, hc, -⟩
    simp at hc
  | append_singleton commands command ih =>
    rw [course_concat, overtakes_concat, ← ih]
    rcases entries_cases o command with he | ⟨entry, he⟩
    · rw [numbers_after he, he]
      simp
    · rw [after_log he, accept_precedes hij (h.course o commands).numbers_lt]
      simp [he]

/-- The docket tells what has become of a service: who was given what, and what is held. -/
structure Records (d : Docket) (before now : Service) : Prop where
  buffering_eq : now.buffering = d.buffering
  pending_eq : now.pending = d.held.map Prod.fst
  slots : List.Forall₂ (fun a b => Slot.Continues a b ∧
    b.entries = a.entries ++ a.admitted (d.given.map Prod.fst)) before.slots now.slots

namespace Records
variable {s t : Service}

theorem docket (s : Service) : s.docket.Records s s :=
  ⟨rfl, (List.zipIdx_map_fst 0 s.pending).symm,
    List.forall₂_same.mpr fun slot _ => ⟨.refl slot, (List.append_nil _).symm⟩⟩

/-- A batch that is served to all sinks comes behind what they were given before. -/
theorem slots_distribute (h : d.Records s t) (batch : List (Entry × Nat)) :
    List.Forall₂ (fun a b => Slot.Continues a b ∧
        b.entries = a.entries ++ a.admitted ((d.given ++ batch).map Prod.fst))
      s.slots (t.distribute (batch.map Prod.fst)).slots := by
  refine Slot.forall₂_comp ?_ h.slots (Service.accounts_distribute (batch.map Prod.fst) t)
  intro a b c hab hbc
  refine ⟨hab.1.trans hbc.1, ?_⟩
  rw [hbc.2, hab.2, hab.1.admitted_eq, List.map_append, Slot.admitted_append, List.append_assoc]

theorem logged (h : d.Records s t) (entry : Entry) :
    ((t.accepted entry).foldl accept d).Records s (t.logged entry) := by
  rw [Service.accepted, Service.logged]
  split
  · rw [List.foldl_cons, List.foldl_nil, accept, ← h.buffering_eq]
    cases hb : t.buffering with
    | true =>
      rw [if_pos rfl, if_pos rfl]
      refine ⟨hb, ?_, h.slots⟩
      rw [Service.pending_hold, List.map_append]
      exact congrArg (· ++ [entry]) h.pending_eq
    | false => exact ⟨hb, h.pending_eq, h.slots_distribute [(entry, d.next)]⟩
  · exact h

theorem flushed (h : d.Records s t) (o : Outlook) : (d.after o .flush).Records s t.flushed := by
  refine ⟨h.buffering_eq, rfl, ?_⟩
  have hd := h.slots_distribute d.held
  rw [← h.pending_eq] at hd
  exact hd

end Records
end Docket

namespace Session
variable {name : String} {s : Session} {d : Docket} {before : Service}

/-- An operation of the service that leaves the threshold. -/
theorem atService_becomes {x : Action Station Unit} {st : Station} {service : Service}
    (hx : x.run (stationFor name s) = (.returned (), st)) (hb : (stationFor name s).Becomes service st)
    (ht : service.threshold = (s.service name).threshold) :
    ∃ t, (quietly (atService name x)).run s = (.returned .nothing, t) ∧ t.service name = service ∧
      t.outlook name = s.outlook name := by
  have hs : (settle name st s).service name = service := (service_settle name st s).trans hb.service_eq
  refine ⟨settle name st s, atService_returned hx, hs, ?_⟩
  rw [outlook, hs, ht, context_settle, contexts_settle, hb.context_eq]
  rfl

/-- One command of logging by hand, to sinks that never refuse. -/
theorem perform_recorded (hc : (s.service name).Compliant) (h : d.Records before (s.service name)) {r : Request}
    (hn : r.service = name) (hb : r.command.logsByHand = true) :
    ∃ t, (perform r).run s = (.returned .nothing, t) ∧ (t.service name).Compliant ∧
      t.outlook name = s.outlook name ∧
      (d.after (s.outlook name) r.command).Records before (t.service name) := by
  have hst : (stationFor name s).service.Compliant := hc
  obtain ⟨owner, simulator, console, command⟩ := r
  cases hn
  cases command with
  | log level time message context =>
    obtain ⟨st, hr, hs⟩ :=
      Station.logEntry_compliant hst ⟨level, time, message, context.getD s.station.context⟩
    obtain ⟨t, ht, hservice, ho⟩ := atService_becomes hr hs (Service.threshold_logged _ _)
    refine ⟨t, (log_run _ _ _ _ _ _ _ s).trans ht, ?_, ho, ?_⟩
    · rw [hservice]
      exact Service.Compliant.logged hc _
    · rw [hservice, Docket.after, entries_log]
      exact h.logged _
  | buffer buffering =>
    have hs : (stationFor owner s).Becomes ((s.service owner).buffer buffering)
      { stationFor owner s with service := (s.service owner).buffer buffering } := ⟨rfl, rfl, rfl⟩
    obtain ⟨t, ht, hservice, ho⟩ :=
      atService_becomes (Station.run_onService (·.buffer buffering) (stationFor owner s)) hs rfl
    refine ⟨t, ht, ?_, ho, ?_⟩
    · rw [hservice]
      exact hc
    · rw [hservice]
      exact ⟨rfl, h.pending_eq, h.slots⟩
  | flush =>
    obtain ⟨st, hr, hs⟩ := Station.flush_compliant hst
    obtain ⟨t, ht, hservice, ho⟩ := atService_becomes hr hs rfl
    refine ⟨t, ht, ?_, ho, ?_⟩
    · rw [hservice]
      exact Service.Compliant.distribute hc _
    · rw [hservice]
      exact h.flushed _
  | _ => cases hb

/-- A whole course of logging by hand. -/
theorem after_recorded (hc : (s.service name).Compliant) (h : d.Records before (s.service name))
    {requests : List Request} (hr : ∀ r ∈ requests, r.service = name ∧ r.command.logsByHand = true) :
    ∃ t, s.after requests = some t ∧
      (d.course (s.outlook name) (requests.map (·.command))).Records before (t.service name) := by
  induction requests generalizing s d with
  | nil => exact ⟨s, rfl, h⟩
  | cons r rest ih =>
    obtain ⟨⟨hn, hb⟩, hrest⟩ := List.forall_mem_cons.mp hr
    obtain ⟨t, ht, htc, ho, hd⟩ := perform_recorded hc h hn hb
    obtain ⟨u, hu, hrec⟩ := ih htc hd hrest
    have ha : ((perform r).run s).1 ≠ .aborted := by simp [ht]
    rw [ho] at hrec
    exact ⟨u, by rw [after_cons ha, ht, hu], hrec⟩

/-- Messages, flushes, and buffering that is switched on and off, with sinks that never refuse. Every entry that
was held or gets accepted has its number, and is given to the sinks or held once. Of two entries the later gets in
front of the earlier just if it is logged while the earlier is held and the service is not buffering. Where that
never happens, all sinks get everything in order. -/
theorem later_entries_overtake_held_ones (name : String) (s : Session) (requests : List Request)
    (hr : ∀ r ∈ requests, r.service = name ∧ r.command.logsByHand = true) (hc : (s.service name).Compliant) :
    ∃ t d accepted, s.after requests = some t ∧
      d = (s.service name).docket.course (s.outlook name) (requests.map (·.command)) ∧
      accepted = (s.service name).pending ++ (requests.map (·.command)).flatMap (s.outlook name).entries ∧
      d.Records (s.service name) (t.service name) ∧
      (d.given ++ d.held).Perm accepted.zipIdx ∧
      (∀ i j, i < j → ([j, i].Sublist d.numbers ↔
        (s.service name).docket.Overtakes (s.outlook name) (requests.map (·.command)) j i)) ∧
      ((∀ i j, ¬(s.service name).docket.Overtakes (s.outlook name) (requests.map (·.command)) j i) →
        d.given ++ d.held = accepted.zipIdx) := by
  obtain ⟨t, ht, hrec⟩ := after_recorded hc (Docket.Records.docket (s.service name)) hr
  have hstart : (s.service name).docket.Complete (s.service name).pending := .refl _
  have hall := hstart.course (s.outlook name) (requests.map (·.command))
  have horder : ∀ i j, i < j → ¬[j, i].Sublist (s.service name).docket.numbers := by
    intro i j hij hs
    have hn : (s.service name).docket.numbers = List.range' 0 (s.service name).pending.length :=
      List.zipIdx_map_snd 0 _
    rw [hn] at hs
    exact Nat.lt_asymm hij (List.pairwise_iff_forall_sublist.mp List.pairwise_lt_range' hs)
  have hover : ∀ i j, i < j → _ := fun i j hij =>
    Docket.precedes_iff_overtakes (s.outlook name) (requests.map (·.command)) hstart (horder i j hij) hij
  refine ⟨t, _, _, ht, rfl, rfl, hrec, hall, hover, fun hno => hall.eq_zipIdx fun i j hij hs => ?_⟩
  exact hno i j ((hover i j hij).mp hs)

/-- One message is held, and with it still held another is delivered at once. -/
def hastyCourse : List Request :=
  [byHand (.buffer true), byHand (.log .info 0.0 "first" none), byHand (.buffer false),
    byHand (.log .info 1.0 "second" none)]

theorem hastyCourse_by_hand : ∀ r ∈ hastyCourse, r.service = sharedService ∧ r.command.logsByHand = true := by
  simp only [hastyCourse, List.forall_mem_cons, List.not_mem_nil, false_implies, implies_true, and_true]
  exact ⟨⟨rfl, rfl⟩, ⟨rfl, rfl⟩, ⟨rfl, rfl⟩, rfl, rfl⟩

/-- The second message overtakes the first. -/
theorem hasty_entry_overtakes :
    (∀ r ∈ hastyCourse, r.service = sharedService ∧ r.command.logsByHand = true) ∧
      ((withSlots [willing]).service sharedService).Compliant ∧
      ∃ t, ∃ d : Docket, (withSlots [willing]).after hastyCourse = some t ∧
        d.Records ((withSlots [willing]).service sharedService) (t.service sharedService) ∧
        (d.given ++ d.held).Perm [(⟨.info, 0.0, "first", {}⟩, 0), (⟨.info, 1.0, "second", {}⟩, 1)] ∧
        [1, 0].Sublist d.numbers := by
  have hc : ((withSlots [willing]).service sharedService).Compliant :=
    List.forall_mem_singleton.mpr willing_compliant
  obtain ⟨t, d, accepted, ht, -, rfl, hrec, hall, hover, -⟩ :=
    later_entries_overtake_held_ones sharedService (withSlots [willing]) hastyCourse hastyCourse_by_hand hc
  refine ⟨hastyCourse_by_hand, hc, t, _, ht, hrec, hall, (hover 0 1 Nat.zero_lt_one).mpr ?_⟩
  exact ⟨hastyCourse.dropLast.map (·.command), .log .info 1.0 "second" none, [], _, rfl, rfl, rfl, rfl,
    List.mem_singleton_self 0⟩

/-- A sink gets the second message while the first is held, and the first behind it. -/
theorem held_entry_is_overtaken :
    (∀ r ∈ hastyCourse, r.service = sharedService ∧ r.command.logsByHand = true) ∧
      ((withSlots [willing]).service sharedService).Compliant ∧
      ((withSlots [willing]).outlook sharedService).accepted (hastyCourse.map (·.command)) =
        [⟨.info, 0.0, "first", {}⟩, ⟨.info, 1.0, "second", {}⟩] ∧
      ∃ t u, (withSlots [willing]).after hastyCourse = some t ∧
        (t.service sharedService).pending = [⟨.info, 0.0, "first", {}⟩] ∧
        (t.service sharedService).slots.map Slot.entries = [[⟨.info, 1.0, "second", {}⟩]] ∧
        t.after [byHand .flush] = some u ∧ (u.service sharedService).held = [] ∧
        (u.service sharedService).slots.map Slot.entries =
          [[⟨.info, 1.0, "second", {}⟩, ⟨.info, 0.0, "first", {}⟩]] := by
  exact ⟨hastyCourse_by_hand, List.forall_mem_singleton.mpr willing_compliant, rfl, _, _, rfl, rfl, rfl, rfl, rfl,
    rfl⟩

end Session
end Flotation
