import Flotation.Proofs.Log.Diary
import Flotation.Proofs.Log.Renderings
import Flotation.Proofs.Simulator.Making

/-! Transcripts: the text that the console and the file of a simulator get of the entries logged. Each gets
what its own level promises, whatever the service drops before. -/
namespace Flotation
open Flotation.Action Station

theorem LogSettings.lowestLevel_le_iff {settings : LogSettings} {level : Level} :
    settings.lowestLevel ≤ level ↔
      settings.consoleLevel ≤ level ∨ settings.fileEnabled = true ∧ settings.fileLevel ≤ level := by
  rw [lowestLevel]
  cases settings.fileEnabled with
  | false => simp
  | true =>
    simp only [Bool.true_and, decide_eq_true_eq, true_and, Level.le_def, Level.lt_def]
    split_ifs <;> omega

namespace Outlets

theorem lines_append (first second : List String) : lines (first ++ second) = lines first ++ lines second := by
  have hstart (start : String) (texts : List String) :
      texts.foldl (fun done text => done ++ text ++ "\n") start = start ++ lines texts := by
    induction texts generalizing start with
    | nil => exact String.append_empty.symm
    | cons text rest ih =>
      have hl : lines (text :: rest) = "" ++ text ++ "\n" ++ lines rest := ih _
      rw [List.foldl_cons, ih, hl, String.empty_append]
      simp only [String.append_assoc]
  rw [lines, List.foldl_append, hstart]
  rfl

theorem console?_addConsole (o : Outlets) (id : ConsoleId) (terminal : Terminal) :
    (o.addConsole id terminal).console? id = some terminal := by
  have hn : (o.consoles.filter (·.1 ≠ id)).lookup id = none := by
    rw [List.lookup_eq_none_iff]
    intro entry hm
    exact bne_iff_ne.mpr (of_decide_eq_true (List.mem_filter.mp hm).2).symm
  rw [console?, addConsole, List.lookup_append, hn]
  simp

end Outlets

/-- The plain lines of the entries that reach a level. -/
def transcript (level : Level) (entries : List Entry) : String :=
  Outlets.lines ((entries.filter fun e => level ≤ e.level).map (Entry.text true))

theorem transcript_append (level : Level) (first second : List Entry) :
    transcript level (first ++ second) = transcript level first ++ transcript level second := by
  rw [transcript, List.filter_append, List.map_append, Outlets.lines_append]
  rfl

/-- What is dropped for being below a level is missed by no transcript from that level on. -/
theorem transcript_filter {lowest level : Level} (h : lowest ≤ level) (entries : List Entry) :
    transcript level (entries.filter fun e => lowest ≤ e.level) = transcript level entries := by
  rw [transcript, transcript, List.filter_filter]
  congr 2
  apply List.filter_congr
  intro e _
  by_cases he : level ≤ e.level
  · have hl : lowest ≤ e.level := Nat.le_trans h he
    simp [he, hl]
  · simp [he]

/-- The outlets of a simulator: its console is up and plain, and the given text stands on the standard output
and, if that is enabled, in its file. -/
structure Outlets.Shows (settings : LogSettings) (console : ConsoleId) (standard file : String) (o : Outlets) :
    Prop where
  terminal : o.console? console = some ⟨{ level := settings.consoleLevel }, true, ""⟩
  standard_eq : o.standard = standard
  file_eq : settings.fileEnabled = true → o.directory.contents? settings.filePath = some file

namespace Outlets.Shows
variable {settings : LogSettings} {console : ConsoleId} {standard file : String} {o : Outlets}

theorem console_written (h : o.Shows settings console standard file) (batch : List Entry) :
    (Slot.written batch ⟨.into (.console console), settings.consoleLevel, []⟩ o).Shows settings console
      (standard ++ transcript settings.consoleLevel batch) file := by
  rw [Slot.written, Slot.admitted, transcript]
  split
  · rename_i hn
    rw [List.isEmpty_iff.mp hn]
    exact ⟨h.terminal, h.standard_eq.trans String.append_empty.symm, h.file_eq⟩
  · have hr (admitted : List Entry) :
        o.receive admitted (.console console) = o.say (lines (admitted.map (Entry.text true))) := by
      simp only [receive, print, h.terminal, if_true, Entry.render_plain]
    rw [Sink.into, hr]
    exact ⟨h.terminal, congrArg (· ++ _) h.standard_eq, h.file_eq⟩

theorem file_written (h : o.Shows settings console standard file) (he : settings.fileEnabled = true)
    (batch : List Entry) :
    (Slot.written batch ⟨.into (.file settings.filePath), settings.fileLevel, []⟩ o).Shows settings console
      standard (file ++ transcript settings.fileLevel batch) := by
  rw [Slot.written, Slot.admitted, transcript]
  split
  · rename_i hn
    rw [List.isEmpty_iff.mp hn]
    exact ⟨h.terminal, h.standard_eq, fun _ => (h.file_eq he).trans (congrArg some String.append_empty.symm)⟩
  · refine ⟨h.terminal, h.standard_eq, fun _ => ?_⟩
    rw [Sink.into, receive, Directory.contents?_append (Directory.locate_isSome_of_contents? (h.file_eq he)),
      h.file_eq he, Option.getD_some]

/-- A batch served by the sinks of a simulator leaves a transcript at each of its outputs. -/
theorem own_written (h : o.Shows settings console standard file) (batch : List Entry) :
    ((Simulator.ownSlots settings console).foldl (fun o slot => slot.written batch o) o).Shows settings console
      (standard ++ transcript settings.consoleLevel batch) (file ++ transcript settings.fileLevel batch) := by
  have hc := h.console_written batch
  rw [Simulator.ownSlots, List.foldl_cons]
  split
  · rename_i he
    exact hc.file_written he batch
  · rename_i he
    exact ⟨hc.terminal, hc.standard_eq, fun h => absurd h he⟩

end Outlets.Shows

namespace Station

/-- The sinks of a simulator as a diary: the entries that reach the lowest level have been delivered to them
or are held for them, and what was delivered has its transcript at each output. -/
structure Transcribed (settings : LogSettings) (console : ConsoleId) (standard file : String)
    (entries : List Entry) (st : Station) : Prop where
  slots : List.Forall₂ Slot.Continues (Simulator.ownSlots settings console) st.service.slots
  threshold_eq : st.service.threshold = settings.lowestLevel
  prompt : st.service.Prompt
  shown : ∃ delivered,
    delivered ++ st.service.pending = entries.filter (fun e => settings.lowestLevel ≤ e.level) ∧
      st.outlets.Shows settings console (standard ++ transcript settings.consoleLevel delivered)
        (file ++ transcript settings.fileLevel delivered)

namespace Transcribed
variable {settings : LogSettings} {console : ConsoleId} {standard file : String} {entries : List Entry}
  {st : Station}

theorem compliant (h : Transcribed settings console standard file entries st) : st.service.Compliant :=
  Slot.compliant_of_continues h.slots (Simulator.ownSlots_compliant settings console)

/-- What is held or buffered makes no difference to the sinks and the outlets. -/
theorem of_service {service : Service} {entries' : List Entry}
    (h : Transcribed settings console standard file entries st) (hs : service.slots = st.service.slots)
    (ht : service.threshold = st.service.threshold) (hp : service.Prompt) {given : List Entry}
    (hh : service.pending = st.service.pending ++ given)
    (he : entries'.filter (fun e => settings.lowestLevel ≤ e.level) =
      entries.filter (fun e => settings.lowestLevel ≤ e.level) ++ given) :
    Transcribed settings console standard file entries' { st with service } := by
  obtain ⟨delivered, hd, hshows⟩ := h.shown
  refine ⟨?_, ht.trans h.threshold_eq, hp, delivered, ?_, hshows⟩
  · rw [hs]
    exact h.slots
  · rw [hh, ← List.append_assoc, hd, he]

/-- Everything held, and what was given besides, has been served to the sinks. -/
theorem distributed {batch given entries' : List Entry} (service : Service)
    (h : Transcribed settings console standard file entries st) (hb : batch = st.service.pending ++ given)
    (hs : service.slots = (st.service.distribute batch).slots)
    (ht : service.threshold = st.service.threshold) (hh : service.held = [])
    (he : entries'.filter (fun e => settings.lowestLevel ≤ e.level) =
      entries.filter (fun e => settings.lowestLevel ≤ e.level) ++ given) :
    Transcribed settings console standard file entries'
      { st with
        service
        outlets := st.service.slots.foldl (fun o slot => slot.written batch o) st.outlets } := by
  obtain ⟨delivered, hd, hshows⟩ := h.shown
  refine ⟨?_, ht.trans h.threshold_eq, fun _ => hh, delivered ++ batch, ?_, ?_⟩
  · rw [hs]
    exact Slot.forall₂_continues_trans h.slots
      ((Service.accounts_distribute _ st.service).imp fun _ _ hab => hab.1)
  · rw [Service.pending_eq_nil.mpr hh, List.append_nil, hb, ← List.append_assoc, hd, he]
  · rw [Slot.foldl_written_eq h.slots, transcript_append, transcript_append, ← String.append_assoc,
      ← String.append_assoc]
    exact hshows.own_written batch

theorem filter_concat (h : Transcribed settings console standard file entries st) (entry : Entry) :
    (entries ++ [entry]).filter (fun e => settings.lowestLevel ≤ e.level) =
      entries.filter (fun e => settings.lowestLevel ≤ e.level) ++ st.service.accepted entry := by
  rw [List.filter_append, List.filter_singleton, Service.accepted, Service.accepts, h.threshold_eq]
  cases decide (settings.lowestLevel ≤ entry.level) <;> rfl

theorem diary (settings : LogSettings) (console : ConsoleId) (standard file : String) :
    Diary (Transcribed settings console standard file) where
  logs := by
    intro entries st h entry
    have he := h.filter_concat entry
    rw [Service.accepted] at he
    -- the entry is dropped, held or delivered at once
    rcases logEntry_cases entry st with ⟨ha, hr⟩ | ⟨ha, ⟨hb, hr⟩ | ⟨hb, hr⟩⟩
    · rw [ha, if_neg Bool.false_ne_true] at he
      exact ⟨st, hr, h.of_service rfl rfl h.prompt (List.append_nil _).symm he⟩
    · rw [ha, if_pos rfl] at he
      refine ⟨_, hr, h.of_service rfl rfl ?_ (Service.pending_hold _ _) he⟩
      intro hn
      exact absurd (hb.symm.trans hn) (by simp)
    · rw [ha, if_pos rfl] at he
      have hn : [entry] = st.service.pending ++ [entry] := by
        rw [Service.pending_eq_nil.mpr (h.prompt hb), List.nil_append]
      have hd := h.distributed ((st.service.enter entry).distribute [entry]) hn rfl rfl (h.prompt hb) he
      exact ⟨_, hr.trans (dispatch_accepted (Slot.someRefuse_compliant h.compliant [entry])), hd⟩
  opens h := h.of_service rfl rfl nofun (List.append_nil _).symm (List.append_nil _).symm
  closes := by
    intro entries st h before
    have hd := h.distributed (st.service.flushed.buffer before) (List.append_nil _).symm rfl rfl rfl
      (List.append_nil _).symm
    refine ⟨_, ?_, hd⟩
    rw [closeScope, run_bind_returned (flush_accepted (Slot.someRefuse_compliant h.compliant _))]
    rfl
  under h _ := ⟨h.slots, h.threshold_eq, h.prompt, h.shown⟩
  noted := by
    intro entries st h tag height
    obtain ⟨delivered, hd, ht, hs, hf⟩ := h.shown
    refine ⟨h.slots, h.threshold_eq, h.prompt, delivered, hd, ?_⟩
    cases tag <;> exact ⟨ht, hs, hf⟩

/-- Once nothing is held, each output has its transcript of all that was logged. -/
theorem settled (h : Transcribed settings console standard file entries st) (hb : st.service.buffering = false) :
    st.outlets.Shows settings console (standard ++ transcript settings.consoleLevel entries)
      (file ++ transcript settings.fileLevel entries) := by
  obtain ⟨delivered, hd, hs⟩ := h.shown
  rw [Service.pending_eq_nil.mpr (h.prompt hb), List.append_nil] at hd
  subst hd
  rw [transcript_filter (LogSettings.lowestLevel_le_iff.mpr (.inl (Nat.le_refl _)))] at hs
  refine ⟨hs.terminal, hs.standard_eq, fun he => ?_⟩
  rw [hs.file_eq he, transcript_filter (LogSettings.lowestLevel_le_iff.mpr (.inr ⟨he, Nat.le_refl _⟩))]

end Transcribed

end Station

namespace Simulator
variable {settings : LogSettings} {st : Station}

/-- Nothing has been logged when the sinks are put up. -/
theorem transcribed_of_served {console : ConsoleId} {service : Service} {outlets : Outlets}
    {standard file : String} (hservice : st.service = served settings console service)
    (houtlets : st.outlets = outlets.addConsole console ⟨{ level := settings.consoleLevel }, true, ""⟩)
    (hh : service.held = []) (hs : outlets.standard = standard)
    (hf : settings.fileEnabled = true → outlets.directory.contents? settings.filePath = some file) :
    Transcribed settings console standard file [] st := by
  rw [served_eq] at hservice
  constructor
  · rw [hservice]
    exact Slot.forall₂_continues_refl _
  · rw [hservice]
  · rw [hservice]
    exact fun _ => hh
  · refine ⟨[], ?_, ?_⟩
    · rw [hservice]
      exact Service.pending_eq_nil.mpr hh
    · rw [houtlets]
      refine ⟨outlets.console?_addConsole _ _, hs.trans String.append_empty.symm, fun he => ?_⟩
      exact (hf he).trans (congrArg some String.append_empty.symm)

/-- A simulator takes over a service that is not in use, provided that its file can be opened. -/
theorem takeOver_transcribed
    (ho : settings.fileEnabled = true → st.outlets.directory.opens settings.filePath = true)
    (hb : st.service.buffering = false) (hh : st.service.held = []) :
    ∃ st', (takeOver settings).run st = (.returned st.serials, st') ∧ st'.context = st.context ∧
      st'.service.buffering = false ∧
      Transcribed settings (consoleId st.serials) st.outlets.standard
        ((st.outlets.directory.contents? settings.filePath).getD "") [] st' := by
  have hbuffering : (served settings (consoleId st.serials) st.service).buffering = false :=
    (congrArg Service.buffering (served_eq _ _ _)).trans hb
  rw [takeOver]
  cases he : settings.fileEnabled with
  | false =>
    refine ⟨_, rfl, rfl, hbuffering, transcribed_of_served rfl rfl hh rfl fun h => ?_⟩
    rw [he] at h
    cases h
  | true =>
    have hopen := openLog_run settings.filePath st
    rw [if_pos (ho he)] at hopen
    refine ⟨_, run_bind_returned hopen _, rfl, hbuffering, transcribed_of_served rfl rfl hh rfl fun _ => ?_⟩
    rw [Directory.contents?_append (Directory.locate_isSome_of_opens (ho he)), String.append_empty]

/-- A simulator that is made at a service not in use announces itself at its own outputs. -/
theorem create_transcribed {α : Type} [Scalar α] {setup : SimulatorSetup α} {scene : Scene α}
    (hs : setup.build = .ok scene)
    (ho : setup.logging.fileEnabled = true → st.outlets.directory.opens setup.logging.filePath = true)
    (hb : st.service.buffering = false) (hh : st.service.held = []) :
    ∃ st', (create setup).run st = (.returned ⟨setup, scene, setup.start, 0, [], none, st.serials⟩, st') ∧
      st'.service.buffering = false ∧
      Transcribed setup.logging (consoleId st.serials) st.outlets.standard
        ((st.outlets.directory.contents? setup.logging.filePath).getD "")
        [readyEntry setup scene st.context] st' := by
  obtain ⟨taken, htaken, hcontext, hbuffering, hstart⟩ := takeOver_transcribed ho hb hh
  obtain ⟨st', hlog, hk⟩ := (Transcribed.diary _ _ _ _).log hstart .info (Scalar.toFloat setup.start)
    (readyText setup.name scene)
  rw [hcontext] at hk
  refine ⟨st', ?_, hk.buffering_eq.trans hbuffering, hk.diary⟩
  rw [create, hs]
  exact (run_bind_returned htaken _).trans (run_bind_returned hlog _)

end Simulator
end Flotation
