import AssetWatch.Proofs.Config.Loading
import AssetWatch.Proofs.Config.Reading
import AssetWatch.Proofs.Toml.Keys
import Mathlib.Logic.Relation

/-!
# The layout of a document

What a document configures depends on what it says only: the entries of its tables may come in any
order, entries that name no field may be added to the tables of fields, and so may fields with the
values that they have by default.
-/

namespace AssetWatch

open Data (Value)
open Data.Value (Keyed Reorders)
open Schema (Respects Orderless respects_field independent_field)

/-! ## The records of a configuration -/

private theorem Path.respects_decode :
    Respects Path.decode := fun _ reorders => by cases reorders <;> rfl

private theorem ArgVariable.respects_decode : Respects ArgVariable.decode := Schema.respects_oneOf

private theorem ArgToken.respects_decode : Respects ArgToken.decode := by
  intro v v' keyed reorders
  rcases reorders.singleton_cases with rfl | ⟨name, a, a', rfl, rfl, inside⟩ | ⟨several, several'⟩
  · rfl
  · have keyed := (keyed.of_entries? rfl).2 _ List.mem_cons_self
    simp only [decode, Schema.named_singleton]
    split
    · rename_i known
      have which : name = "text" ∨ name = "variable" := by simpa using known
      rcases which with rfl | rfl
      · exact (Schema.respects_text keyed inside).map _
      · exact (ArgVariable.respects_decode keyed inside).map _
    · rfl
  · obtain ⟨fault, error⟩ := Schema.named_of_isSeveral ["text", "variable"] several
    obtain ⟨fault', error'⟩ := Schema.named_of_isSeveral ["text", "variable"] several'
    simp only [decode, error, error']
    rfl

private theorem LogFormat.respects_decode : Respects LogFormat.decode := Schema.respects_oneOf

private theorem StrategyKind.respects_decode : Respects StrategyKind.decode := Schema.respects_oneOf

theorem Targets.orderless : Orderless fields where
  names := by decide
  independent := by simp [fields, independent_field]
  respects := by
    simp only [fields, List.forall_mem_cons, List.not_mem_nil, false_imp_iff, implies_true, and_true]
    exact ⟨respects_field (Schema.respects_map Path.respects_decode),
      respects_field (Schema.respects_map (Schema.respects_list Path.respects_decode))⟩

theorem StrategySettings.orderless : Orderless fields where
  names := by decide
  independent := by simp [fields, independent_field]
  respects := by
    simp only [fields, List.forall_mem_cons, List.not_mem_nil, false_imp_iff, implies_true, and_true]
    exact ⟨respects_field StrategyKind.respects_decode,
      respects_field (Schema.respects_optional (Schema.respects_list ArgToken.respects_decode)),
      respects_field (Schema.respects_map Schema.respects_text)⟩

theorem Observability.orderless : Orderless fields where
  names := by decide
  independent := by simp [fields, independent_field]
  respects := by
    simp only [fields, List.forall_mem_cons, List.not_mem_nil, false_imp_iff, implies_true, and_true]
    exact ⟨respects_field Schema.respects_text, respects_field LogFormat.respects_decode,
      respects_field (Schema.respects_optional Schema.respects_text)⟩

theorem WatcherSettings.orderless : Orderless fields where
  names := by decide
  independent := by simp [fields, independent_field]
  respects := by
    simp only [fields, List.forall_mem_cons, List.not_mem_nil, false_imp_iff, implies_true, and_true]
    exact ⟨respects_field (Schema.respects_word _), respects_field (Schema.respects_word _),
      respects_field Schema.respects_boolean⟩

theorem ExecutionLimits.orderless : Orderless fields where
  names := by decide
  independent := by simp [fields, independent_field]
  respects := by
    simp only [fields, List.forall_mem_cons, List.not_mem_nil, false_imp_iff, implies_true, and_true]
    exact ⟨respects_field (Schema.respects_word _), respects_field (Schema.respects_word _),
      respects_field Schema.respects_boolean⟩

private theorem StrategySettings.respects_decode : Respects StrategySettings.decode := by
  intro v v' keyed reorders
  refine ((orderless.respects_record _ {} keyed reorders).bind _).trans (sameResult_bind fun draft => ?_)
  cases draft.kind with
  | some kind => rfl
  | none => cases v.items? <;> cases v'.items? <;> rfl

theorem Config.orderless : Orderless fields where
  names := by decide
  independent := by simp [fields, independent_field]
  respects := by
    simp only [fields, List.forall_mem_cons, List.not_mem_nil, false_imp_iff, implies_true, and_true]
    exact ⟨respects_field (Schema.respects_optional Schema.respects_text),
      respects_field (Targets.orderless.respects_record _ _),
      respects_field StrategySettings.respects_decode,
      respects_field (Observability.orderless.respects_record _ _),
      respects_field (WatcherSettings.orderless.respects_record _ _),
      respects_field (ExecutionLimits.orderless.respects_record _ _)⟩

private theorem Config.respects_decode : Respects Config.decode :=
  fun keyed reorders => (orderless.respects_record _ {} keyed reorders).bind _

/-! ## Entries that say nothing new -/

def Observability.defaultEntries : List (String × Value) :=
  [("log_level", .text "info"), ("log_format", .text "pretty")]

def WatcherSettings.defaultEntries : List (String × Value) :=
  [("debounce_ms", .integer 200), ("poll_interval_ms", .integer 2000), ("watch_config", .boolean true)]

def ExecutionLimits.defaultEntries : List (String × Value) :=
  [("max_parallel", .integer 0), ("timeout_secs", .integer 0), ("fail_fast", .boolean false)]

namespace Config

/-- A table of fields: the document itself, or one of its sections. -/
inductive Section
  | document
  | targets
  | strategy
  | observability
  | watcher
  | execution

namespace Section

def key? : Section → Option String
  | document => none
  | targets => some "targets"
  | strategy => some "strategy"
  | observability => some "observability"
  | watcher => some "watcher"
  | execution => some "execution"

/-- An entry says nothing new in a table that does not have its key yet. -/
def Idle : Section → String × Value → Prop
  | document => Schema.Idle Config.fields {}
  | targets => Schema.Idle Targets.fields {}
  | strategy => Schema.Idle StrategySettings.fields {}
  | observability => Schema.Idle Observability.fields {}
  | watcher => Schema.Idle WatcherSettings.fields {}
  | execution => Schema.Idle ExecutionLimits.fields {}

/-- What a table may leave out and a document can write, with the values that stand for it then. -/
def defaults : Section → List (String × Value)
  | document => [("observability", .table Observability.defaultEntries),
    ("watcher", .table WatcherSettings.defaultEntries),
    ("execution", .table ExecutionLimits.defaultEntries)]
  | targets => [("bundle_entrypoints_folder", .table []), ("watch", .table [])]
  | strategy => [("cmds", .table [])]
  | observability => Observability.defaultEntries
  | watcher => WatcherSettings.defaultEntries
  | execution => ExecutionLimits.defaultEntries

/-- Whatever is written out with its default says nothing new. -/
theorem idle_of_mem_defaults (s : Section) : ∀ e ∈ s.defaults, s.Idle e := by
  cases s with
  | document =>
    simp only [defaults, List.forall_mem_cons, Idle, Config.orderless.idle_iff]
    exact ⟨rfl, rfl, rfl, nofun⟩
  | targets =>
    simp only [defaults, List.forall_mem_cons, Idle, Targets.orderless.idle_iff]
    exact ⟨rfl, rfl, nofun⟩
  | strategy =>
    simp only [defaults, List.forall_mem_cons, Idle, StrategySettings.orderless.idle_iff]
    exact ⟨rfl, nofun⟩
  | observability =>
    simp only [defaults, Observability.defaultEntries, List.forall_mem_cons, Idle,
      Observability.orderless.idle_iff]
    exact ⟨rfl, rfl, nofun⟩
  | watcher =>
    simp only [defaults, WatcherSettings.defaultEntries, List.forall_mem_cons, Idle,
      WatcherSettings.orderless.idle_iff]
    exact ⟨rfl, rfl, rfl, nofun⟩
  | execution =>
    simp only [defaults, ExecutionLimits.defaultEntries, List.forall_mem_cons, Idle,
      ExecutionLimits.orderless.idle_iff]
    exact ⟨rfl, rfl, rfl, nofun⟩

/-- What says nothing new in a section leaves the whole draft as it is. -/
theorem Idle.setEntry {s : Section} {e : String × Value} (idle : s.Idle e) {key : String}
    (here : s.key? = some key) (entries : List (String × Value)) (draft : Draft) :
    Schema.setEntry Config.fields draft (key, .table (e :: entries)) =
      Schema.setEntry Config.fields draft (key, .table entries) := by
  cases s with
  | document => cases here
  | targets =>
    cases here
    exact congrArg (Except.map _) (Schema.Idle.record Targets.orderless idle _ entries)
  | strategy =>
    cases here
    have same : StrategySettings.decode (.table (e :: entries)) =
        StrategySettings.decode (.table entries) := by
      rw [StrategySettings.decode, Schema.Idle.record StrategySettings.orderless idle]
      rfl
    exact congrArg (Except.map _) same
  | observability =>
    cases here
    exact congrArg (Except.map _) (Schema.Idle.record Observability.orderless idle _ entries)
  | watcher =>
    cases here
    exact congrArg (Except.map _) (Schema.Idle.record WatcherSettings.orderless idle _ entries)
  | execution =>
    cases here
    exact congrArg (Except.map _) (Schema.Idle.record ExecutionLimits.orderless idle _ entries)

end Section

/-! ## The same, laid out differently -/

/-- One document is laid out like another but for the order of a table's entries, or for one entry
that it has in addition and that says nothing new. -/
inductive Restates : Value → Value → Prop
  | order {v v' : Value} (reorders : Reorders v v') : Restates v v'
  | entry {entries : List (String × Value)} {e : String × Value} (idle : Section.document.Idle e)
      (new : e.1 ∉ entries.map Prod.fst) (keyed : e.2.Keyed) :
      Restates (.table entries) (.table (e :: entries))
  | inSection {s : Section} {key : String} {before after entries : List (String × Value)}
      {e : String × Value} (here : s.key? = some key) (idle : s.Idle e)
      (new : e.1 ∉ entries.map Prod.fst) (keyed : e.2.Keyed) :
      Restates (.table (before ++ (key, .table entries) :: after))
        (.table (before ++ (key, .table (e :: entries)) :: after))

def SameContent : Value → Value → Prop := Relation.EqvGen Restates

/-- A document loads as another: both give one configuration, or one list of faults, or neither fits
the record. -/
inductive LoadsLike : Except LoadError Config → Except LoadError Config → Prop
  | loaded (c : Config) : LoadsLike (.ok c) (.ok c)
  | invalid (faults : List ConfigFault) : LoadsLike (.error (.invalid faults)) (.error (.invalid faults))
  | misfit (fault fault' : Schema.Fault) : LoadsLike (.error (.misfit fault)) (.error (.misfit fault'))

private theorem LoadsLike.eq_ok {c : Config} {result : Except LoadError Config}
    (h : LoadsLike (.ok c) result) :
    result = .ok c := by
  cases h
  rfl

variable {document document' : Value}

theorem keyed_cons_iff {e : String × Value} {entries : List (String × Value)}
    (new : e.1 ∉ entries.map Prod.fst) (keyed : e.2.Keyed) :
    (Value.table (e :: entries)).Keyed ↔ (Value.table entries).Keyed := by
  rw [Data.Value.keyed_table, Data.Value.keyed_table, List.map_cons, List.nodup_cons,
    List.forall_mem_cons]
  exact ⟨fun h => ⟨h.1.2, h.2.2⟩, fun h => ⟨⟨new, h.1⟩, keyed, h.2⟩⟩

theorem Restates.keyed_iff (h : Restates document document') :
    document.Keyed ↔ document'.Keyed := by
  cases h with
  | order reorders => exact reorders.keyed_iff
  | entry _ new keyed => exact (keyed_cons_iff new keyed).symm
  | inSection _ _ new keyed =>
    rw [Data.Value.keyed_table, Data.Value.keyed_table]
    simp only [List.forall_mem_append, List.forall_mem_cons, keyed_cons_iff new keyed,
      List.map_append, List.map_cons]

theorem Restates.sameResult (h : Restates document document') (keyed : document.Keyed) :
    SameResult (decode document) (decode document') := by
  cases h with
  | order reorders => exact respects_decode keyed reorders
  | entry idle =>
    exact .of_eq (congrArg (· >>= _) (idle.record orderless "BundlerConfig" _).symm)
  | @inSection s key before after entries e here idle =>
    have same (draft : Draft) : SameResult (Schema.setEntry fields draft (key, .table entries))
        (Schema.setEntry fields draft (key, .table (e :: entries))) :=
      .of_eq (idle.setEntry here entries draft).symm
    exact .bind (sameResult_foldlM same {}) _

theorem SameContent.keyed_iff (h : SameContent document document') :
    document.Keyed ↔ document'.Keyed := by
  induction h with
  | rel _ _ restates => exact restates.keyed_iff
  | refl => exact .rfl
  | symm _ _ _ ih => exact ih.symm
  | trans _ _ _ _ _ ih ih' => exact ih.trans ih'

theorem SameContent.sameResult (h : SameContent document document') (keyed : document.Keyed) :
    SameResult (decode document) (decode document') := by
  induction h with
  | rel _ _ restates => exact restates.sameResult keyed
  | refl => exact .refl _
  | symm _ _ same ih => exact (ih ((SameContent.keyed_iff same).2 keyed)).symm
  | trans _ _ _ same _ ih ih' => exact (ih keyed).trans (ih' ((SameContent.keyed_iff same).1 keyed))

/-- Loading goes by the record that is read, and by nothing else. -/
theorem loadsLike_of_sameResult (same : SameResult (decode document) (decode document')) :
    LoadsLike (ofDocument document) (ofDocument document') := by
  rw [ofDocument_eq, ofDocument_eq]
  cases read : decode document with
  | error fault =>
    cases read' : decode document' with
    | error fault' => exact .misfit fault fault'
    | ok c => rw [read, read'] at same; cases same
  | ok c =>
    rw [same.eq_ok_iff.1 read]
    dsimp only
    cases c.validate with
    | error faults => exact .invalid faults
    | ok _ => exact .loaded c

/-- Any two documents that say the same load alike, as long as no table has a key twice. -/
theorem loadsLike_of_sameContent (keyed : document.Keyed) (same : SameContent document document') :
    LoadsLike (ofDocument document) (ofDocument document') :=
  loadsLike_of_sameResult (same.sameResult keyed)

/-- What a text configures does not depend on how it is laid out: a document that says the same as
the text's loads like the text, be it written as another text or not, and has no key twice either;
and whatever is written out with its default says nothing new. -/
theorem parse_of_sameContent {content : String} (parsed : Toml.parse content = some document)
    (same : SameContent document document') :
    (document.Keyed ∧ document'.Keyed) ∧
    LoadsLike (parse content) (ofDocument document') ∧
    (∀ content', Toml.parse content' = some document' → LoadsLike (parse content) (parse content')) ∧
    ∀ s : Section, ∀ e ∈ s.defaults, s.Idle e := by
  have keyed := Toml.keyed_of_parse parsed
  have alike := loadsLike_of_sameContent keyed same
  have loads : parse content = ofDocument document := by rw [parse, parsed]
  refine ⟨⟨keyed, same.keyed_iff.1 keyed⟩, loads ▸ alike, fun content' parsed' => ?_,
    Section.idle_of_mem_defaults⟩
  have loads' : parse content' = ofDocument document' := by rw [parse, parsed']
  rw [loads, loads']
  exact alike

/-- A text whose sections change places, to which a section is added with its defaults, and a name
that no section has. -/
theorem parse_of_sameContent_document : ∃ entries c,
    Toml.parse (Config.document "js" "live") = some (.table entries) ∧
    parse (Config.document "js" "live") = .ok c ∧
    ofDocument (.table (("owner", .text "web") ::
      ("execution", .table Section.execution.defaults) :: entries.reverse)) = .ok c := by
  have read : ((Toml.parse (Config.document "js" "live")).any fun v =>
      (v.entries?.map (List.map Prod.fst) == some ["targets", "strategy"]) &&
        (ofDocument v).toOption.isSome) = true := by decide +kernel
  obtain ⟨v, parsed, fine⟩ := (Option.any_eq_true _ _).1 read
  obtain ⟨sections, loaded⟩ := Bool.and_eq_true_iff.1 fine
  obtain ⟨entries, table, keys⟩ := Option.map_eq_some_iff.1 (beq_iff_eq.1 sections)
  obtain ⟨c, loaded⟩ := exists_of_isSome loaded
  have loads : parse (Config.document "js" "live") = .ok c := by
    rw [parse, parsed]
    exact loaded
  cases v with
  | table es =>
    cases table
    have keyed : (Value.table Section.execution.defaults).Keyed :=
      .table (by decide) fun e he => by
        simp only [Section.defaults, ExecutionLimits.defaultEntries, List.mem_cons, List.not_mem_nil,
          or_false] at he
        rcases he with rfl | rfl | rfl <;> constructor
    have same : SameContent (.table entries) (.table (("owner", .text "web") ::
        ("execution", .table Section.execution.defaults) :: entries.reverse)) := by
      refine .trans _ _ _ (.rel _ _ (.order (.entries (List.reverse_perm entries).symm)))
        (.trans _ _ _ (.rel _ _ (.entry ?_ ?_ keyed)) (.rel _ _ (.entry ?_ ?_ (.text _))))
      · exact Section.idle_of_mem_defaults .document _ (by simp [Section.defaults])
      · rw [List.map_reverse, keys]
        decide
      · exact .unknown (by decide)
      · rw [List.map_cons, List.map_reverse, keys]
        decide
    obtain ⟨-, alike, -⟩ := parse_of_sameContent parsed same
    exact ⟨entries, c, parsed, loads, (loads ▸ alike).eq_ok⟩
  | moment spelling =>
    cases table
    exact absurd keys (by simp)
  | _ => cases table

end Config

end AssetWatch
