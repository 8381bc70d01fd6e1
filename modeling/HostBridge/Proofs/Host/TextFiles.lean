import HostBridge.Host.Config
import HostBridge.Proofs.Documents
import HostBridge.Proofs.Json.Edits
import HostBridge.SelfTest.Report
import Mathlib

/-!
# Configuration files and reports

The two kinds of text that the host keeps in files. A configuration is written
once and then edited by hand; loading it takes what was left of it and the
defaults for what was taken out, at both levels on their own, and does not
write to the file. A report is read back as it was.

What "edited" means is `Config.EditedTo`: fields and whole sections may be
missing, the order is free, the directory of the plugins may go by its other
name, and there may be fields that no reader knows. Nothing is said about the
text of the edited object but that it is parsed as that object, so that the
statement holds for every way of writing it down; the two layouts of the
library are such ways. That it is read as the configuration that is left is
one lemma on edited records (`Edited.places`), used at both levels.

A field that is missing from a section and a section that is missing from the
file are two things: the first takes the default of that field, the second
takes the defaults of all of its fields. `Config.restricted` says what is left
in both cases with one predicate on names, because the two levels do not share
any name.
-/

namespace HostBridge

open Json (WellSpelled Edited Renamed)

/-! ## What is left of a configuration

The defaults in place of what was taken out. -/

/-- The settings with the defaults for the fields that are not kept. -/
def DomainConfig.restricted (c : DomainConfig) (keep : String → Bool) : DomainConfig :=
  let standard : DomainConfig := {}
  { domain := if keep "domain" then c.domain else standard.domain
    maxCallDepth := if keep "max_call_depth" then c.maxCallDepth else standard.maxCallDepth
    collectOnShutdown :=
      if keep "collect_on_shutdown" then c.collectOnShutdown else standard.collectOnShutdown }

/-- The settings with the defaults for the fields that are not kept. -/
def HostConfig.restricted (c : HostConfig) (keep : String → Bool) : HostConfig :=
  let standard : HostConfig := {}
  { assembly := if keep "assembly" then c.assembly else standard.assembly
    pluginsDir := if keep "native_plugins_dir" then c.pluginsDir else standard.pluginsDir
    abortOnManagedFault :=
      if keep "abort_on_managed_fault" then c.abortOnManagedFault
      else standard.abortOnManagedFault }

/-- **The configuration with the defaults for what is not kept**, be it a field
or a section. -/
def Config.restricted (c : Config) (keep : String → Bool) : Config :=
  { runtime := if keep "runtime" then c.runtime.restricted keep else {}
    host := if keep "host" then c.host.restricted keep else {} }

/-- The names that the fields of a section go by. -/
def Config.fieldNames (section_ : String) : List (List String) :=
  if section_ = "runtime" then [["domain"], ["max_call_depth"], ["collect_on_shutdown"]]
  else if section_ = "host" then
    [["assembly"], ["native_plugins_dir", "plugins_dir"], ["abort_on_managed_fault"]]
  else []

/-- A section under its name, edited in turn. -/
def Config.SectionEdited (keep : String → Bool) (f g : String × Json) : Prop :=
  g.1 = f.1 ∧ Edited (fieldNames f.1) keep (Renamed (fieldNames f.1)) f.2 g.2

/-- **A configuration's document after editing.** `keep` names the sections and
the fields that are left. -/
def Config.EditedTo (c : Config) (keep : String → Bool) (j : Json) : Prop :=
  Edited [["runtime"], ["host"]] keep (SectionEdited keep) c.toJson j

/-! ## Reading sections

A field is read from its place, whatever else the section contains. -/

section

variable {keep : String → Bool} {j : Json}

/-- A field that is left is read, one that is not has its default. -/
theorem optional?_ite {α : Type} {read : Json → Option α} {a : α} {default : α} {k : Json}
    (h : read k = some a) (b : Bool) :
    Json.optional? read default (if b then some k else none) = some (if b then a else default) := by
  cases b
  · rfl
  · exact h

theorem DomainConfig.wellSpelled_edited {c : DomainConfig}
    (h : Edited (Config.fieldNames "runtime") keep (Renamed (Config.fieldNames "runtime"))
      c.toJson j) : j.WellSpelled :=
  h.wellSpelled_renamed (by simp [WellSpelled.text, WellSpelled.nat, WellSpelled.bool])

theorem HostConfig.wellSpelled_edited {c : HostConfig}
    (h : Edited (Config.fieldNames "host") keep (Renamed (Config.fieldNames "host"))
      c.toJson j) : j.WellSpelled :=
  h.wellSpelled_renamed (by simp [WellSpelled.text, WellSpelled.bool])

/-- What is left of the runtime's settings is read. -/
theorem DomainConfig.ofJson?_edited {c : DomainConfig}
    (h : Edited (Config.fieldNames "runtime") keep (Renamed (Config.fieldNames "runtime"))
      c.toJson j) : DomainConfig.ofJson? j = some (c.restricted keep) := by
  have hread := h.readRecord? rfl (by decide)
  change Json.readRecord? [["domain"], ["max_call_depth"], ["collect_on_shutdown"]] j = _ at hread
  simp only [List.map_cons, List.map_nil] at hread
  simp [ofJson?, hread, optional?_ite (readText?_text c.domain),
    optional?_ite (Json.readWord?_nat c.maxCallDepth),
    optional?_ite (show Json.readBool? (.bool c.collectOnShutdown) = some _ from rfl), restricted]

/-- What is left of the host's settings is read. -/
theorem HostConfig.ofJson?_edited {c : HostConfig}
    (h : Edited (Config.fieldNames "host") keep (Renamed (Config.fieldNames "host"))
      c.toJson j) : HostConfig.ofJson? j = some (c.restricted keep) := by
  have hread := h.readRecord? rfl (by decide)
  change Json.readRecord?
    [["assembly"], ["native_plugins_dir", "plugins_dir"], ["abort_on_managed_fault"]] j = _ at hread
  simp only [List.map_cons, List.map_nil] at hread
  simp [ofJson?, hread, optional?_ite (readText?_text c.assembly),
    optional?_ite (readText?_text c.pluginsDir),
    optional?_ite (show Json.readBool? (.bool c.abortOnManagedFault) = some _ from rfl), restricted]

/-- **What is left of a configuration is read.** -/
theorem Config.ofJson?_edited {c : Config} (h : c.EditedTo keep j) :
    Config.ofJson? j = some (c.restricted keep) := by
  obtain ⟨places, hread, hplaces⟩ := Edited.places h rfl (by
    rintro f - g ⟨hname, -⟩
    rw [hname])
  obtain _ | ⟨hruntime, hrest⟩ := hplaces
  obtain _ | ⟨hhost, hrest⟩ := hrest
  obtain _ | _ := hrest
  rename_i runtime host
  -- each section is missing or was edited in turn
  have hruntime' : Json.optional? DomainConfig.ofJson? {} runtime
      = some (c.restricted keep).runtime := by
    simp only [restricted]
    split_ifs at hruntime ⊢ with hkeep
    · obtain ⟨g, ⟨-, hg⟩, rfl⟩ := hruntime
      exact DomainConfig.ofJson?_edited hg
    · rw [hruntime]
      rfl
  have hhost' : Json.optional? HostConfig.ofJson? {} host = some (c.restricted keep).host := by
    simp only [restricted]
    split_ifs at hhost ⊢ with hkeep
    · obtain ⟨g, ⟨-, hg⟩, rfl⟩ := hhost
      exact HostConfig.ofJson?_edited hg
    · rw [hhost]
      rfl
  simp [ofJson?, hread, hruntime', hhost']

/-- An edited configuration can be written down. -/
theorem Config.wellSpelled_edited {c : Config} (h : c.EditedTo keep j) : j.WellSpelled := by
  refine Edited.wellSpelled h fun f hf g hg => ?_
  obtain ⟨-, hg⟩ := hg
  simp only [List.mem_cons, List.not_mem_nil, or_false] at hf
  rcases hf with rfl | rfl
  · exact DomainConfig.wellSpelled_edited hg
  · exact HostConfig.wellSpelled_edited hg

end

/-! ## Loading

From the file to the configuration, with the file as it was before. -/

/-- Loading a file that is there reads it and does nothing else. -/
theorem Config.run_load? {path text : String} {f : Files}
    (h : f.lookup? path = some (.file text)) :
    f.run (Config.load? path) = (some (Config.read? text), f) := by
  have hthere : (f.lookup? path).isSome = true := by
    rw [h]
    rfl
  have hread : (f.reply (.read path)).1 = some text := by
    dsimp only [Files.reply]
    rw [h]
  have hasked : f.run (Config.load? path) = f.run (if (f.lookup? path).isSome then
      (do
        let text : Option String ← FileProgram.op (.read path)
        return text >>= Config.read?)
      else
        (do
          let standard : Config := {}
          let written : Bool ← FileProgram.op (.write path standard.toJson.indented)
          return if written then some standard else none)) := rfl
  rw [hasked, if_pos hthere]
  show (some ((f.reply (.read path)).1 >>= Config.read?), f) = _
  rw [hread]
  rfl

/-! ## Reports

They are written and read by the host alone, and nothing is edited. -/

theorem ScenarioResult.wellSpelled_toJson (s : ScenarioResult) : s.toJson.WellSpelled := by
  refine .record ?_
  simp [WellSpelled.text, WellSpelled.bool]

theorem ScenarioResult.ofJson?_toJson (s : ScenarioResult) :
    ScenarioResult.ofJson? s.toJson = some s := by
  have hrecord : Json.readRecord? [["name"], ["passed"], ["detail"]] s.toJson
      = some [some (.text s.name), some (.bool s.passed), some (.text s.detail)] := rfl
  simp [ofJson?, hrecord, Json.required?, readText?_text, Json.readBool?]

theorem Report.wellSpelled_toJson (r : Report) : r.toJson.WellSpelled := by
  refine .record ?_
  simp [WellSpelled.text, WellSpelled.nat, WellSpelled.array_map WellSpelled.text,
    WellSpelled.array_map ScenarioResult.wellSpelled_toJson]

theorem Report.ofJson?_toJson (r : Report) : Report.ofJson? r.toJson = some r := by
  have hrecord : Json.readRecord?
      [["domain"], ["assembly"], ["scenarios"], ["collected"], ["journal"]] r.toJson
      = some [some (.text r.domain), some (.text r.assembly),
        some (.array (r.scenarios.map ScenarioResult.toJson)), some (.nat r.collected.toNat),
        some (.array (r.journal.map .text))] := rfl
  simp [ofJson?, hrecord, Json.required?, Json.optional?, readText?_text, Json.readWord?_nat,
    Json.readList?_map readText?_text, Json.readList?_map ScenarioResult.ofJson?_toJson]

/-- A report is read from what it was written to. -/
theorem Report.read?_write (r : Report) : Report.read? r.write = some r := by
  rw [read?, write, Json.parse?_indented r.wellSpelled_toJson]
  exact r.ofJson?_toJson

/-- **Main: configurations survive editing, reports survive being written.**
An edited configuration can be written down in either layout; from any text
of it in a file, loading makes the configuration with the defaults in the
places of exactly what was taken out, and it leaves the files as they are. -/
theorem text_files_survive :
    (∀ (c : Config) (keep : String → Bool) (j : Json), c.EditedTo keep j →
      Json.parse? j.compact = some j ∧ Json.parse? j.indented = some j
        ∧ ∀ (text path : String) (f : Files), Json.parse? text = some j →
          f.lookup? path = some (.file text) →
          f.run (Config.load? path) = (some (some (c.restricted keep)), f))
      ∧ ∀ r : Report, Report.read? r.write = some r := by
  refine ⟨fun c keep j h => ?_, Report.read?_write⟩
  have hspelled := Config.wellSpelled_edited h
  refine ⟨Json.parse?_compact hspelled, Json.parse?_indented hspelled, ?_⟩
  intro text path f htext hfile
  rw [Config.run_load? hfile, Config.read?, htext]
  exact congrArg (fun loaded => (some loaded, f)) (Config.ofJson?_edited h)

/-- A configuration with none of its settings at their defaults. -/
def tunedConfig : Config := ⟨⟨"game", 64, false⟩, ⟨"Mods", "mods", true⟩⟩

/-- Its document after editing: everything stands in the opposite order, the
name of the domain is gone, the plugin directory goes by its other name, and
there are two fields that no reader knows. -/
def tunedDocument : Json :=
  .record [("version", .int 2),
    ("host", .record [("note", .text "mine"), ("abort_on_managed_fault", .bool true),
      ("plugins_dir", .text "mods"), ("assembly", .text "Mods")]),
    ("runtime", .record [("collect_on_shutdown", .bool false), ("max_call_depth", .nat 64)])]

theorem tunedConfig_editedTo :
    tunedConfig.EditedTo (fun name => name ≠ "domain") tunedDocument := by
  refine ⟨_, [("version", .int 2)], _,
    fun f => if f.1 = "runtime" then ("runtime", .record [("collect_on_shutdown", .bool false),
        ("max_call_depth", .nat 64)])
      else ("host", .record [("note", .text "mine"), ("abort_on_managed_fault", .bool true),
        ("plugins_dir", .text "mods"), ("assembly", .text "Mods")]),
    rfl, rfl, ?_, ?_, List.reverse_perm [_, _, _]⟩
  · intro f hf _
    simp only [List.mem_cons, List.not_mem_nil, or_false] at hf
    rcases hf with rfl | rfl
    · refine ⟨rfl, _, [], _, id, rfl, rfl, fun f _ _ => ⟨rfl, .inl rfl⟩, by simp,
        List.reverse_perm [_, _]⟩
    · refine ⟨rfl, _, [("note", .text "mine")], _,
        fun f => if f.1 = "native_plugins_dir" then ("plugins_dir", f.2) else f, rfl, rfl, ?_, ?_,
        List.reverse_perm [_, _, _, _]⟩
      · intro f hf _
        simp only [List.mem_cons, List.not_mem_nil, or_false] at hf
        rcases hf with rfl | rfl | rfl
        · exact ⟨rfl, .inl rfl⟩
        · exact ⟨rfl, .inr ⟨["native_plugins_dir", "plugins_dir"], by decide, by decide, by decide⟩⟩
        · exact ⟨rfl, .inl rfl⟩
      · simp only [List.mem_singleton, forall_eq]
        exact ⟨by decide, .inl ⟨_, rfl⟩⟩
  · simp only [List.mem_singleton, forall_eq]
    exact ⟨by decide, .inr ⟨_, rfl⟩⟩

/-- The files with one text in the working directory. -/
def filesWith (text : String) : Files :=
  { entries := Table.empty.insert ["conf"] (.file text) }

theorem lookup?_filesWith (text : String) :
    (filesWith text).lookup? "conf" = some (.file text) := by cbv

/-- Loading it finds every setting but the name of the domain. -/
theorem text_files_survive_tuned :
    tunedConfig.EditedTo (fun name => name ≠ "domain") tunedDocument
      ∧ Json.parse? tunedDocument.compact = some tunedDocument
      ∧ (filesWith tunedDocument.compact).lookup? "conf" = some (.file tunedDocument.compact)
      ∧ (filesWith tunedDocument.compact).run (Config.load? "conf")
        = (some (some { tunedConfig with runtime := ⟨"bridge_d", 64, false⟩ }),
          filesWith tunedDocument.compact) := by
  obtain ⟨hcompact, -, hload⟩ := text_files_survive.1 _ _ _ tunedConfig_editedTo
  have hfile := lookup?_filesWith tunedDocument.compact
  exact ⟨tunedConfig_editedTo, hcompact, hfile, hload _ _ _ hcompact hfile⟩

end HostBridge
