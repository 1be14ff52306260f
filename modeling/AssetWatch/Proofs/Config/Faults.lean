import AssetWatch.Proofs.Config.Validity
import Mathlib.Data.List.Sort
import Mathlib.Data.List.TakeWhile

/-!
# Which faults are reported

Every rule that a configuration breaks is reported once for each category or environment it is
broken for, nothing else is, and the reports have one order: entrypoint folders by category, watch
lists by category, then the template, the commands, the setup and the periods. What is broken and
what comes first is said here without the lists that validation puts together, and the two say
in full what it reports.
-/

namespace AssetWatch

theorem Text.isBlank_iff {s : String} : isBlank s = true ↔ trim s = "" := by
  have nothing : trim s = "" ↔
      (s.toList.dropWhile isWhite).reverse.dropWhile isWhite = [] := by
    rw [trim, ← String.toList_inj, String.toList_ofList, String.toList_empty, List.reverse_eq_nil_iff]
  rw [nothing, isBlank, List.all_eq_true]
  constructor
  · intro white
    rw [List.dropWhile_eq_nil_iff.2 white]
    rfl
  · intro left
    have front : s.toList.dropWhile isWhite = [] := by
      by_contra more
      have white := List.dropWhile_eq_nil_iff.1 left _ (List.mem_reverse.2 (List.head_mem more))
      have notWhite := List.head_dropWhile_not isWhite more
      exact Bool.false_ne_true (notWhite.symm.trans white)
    exact List.dropWhile_eq_nil_iff.1 front

namespace ConfigFault

/-! ## The order of reports -/

/-- The part of a record that a fault is found in, counted from the front. -/
def part : ConfigFault → Nat
  | .missingWatch _ | .blankEntrypointsFolder _ => 0
  | .missingEntrypointsFolder _ | .emptyWatchList _ | .blankWatchPath _ => 1
  | .argsWithoutSingleExecution _ => 2
  | .noCommands => 3
  | .blankCommand _ => 4
  | .blankSetup => 5
  | .zeroDebounce => 6
  | .zeroPollInterval => 7

def subject : ConfigFault → String
  | .missingWatch name | .blankEntrypointsFolder name | .missingEntrypointsFolder name
  | .emptyWatchList name | .blankWatchPath name | .blankCommand name => name
  | _ => ""

/-- The place of a fault among those about one category. -/
def rank : ConfigFault → Nat
  | .blankEntrypointsFolder _ | .emptyWatchList _ | .blankWatchPath _ => 1
  | _ => 0

def Precedes (f g : ConfigFault) : Prop :=
  f.part < g.part ∨ f.part = g.part ∧
    (f.subject < g.subject ∨ f.subject = g.subject ∧ f.rank < g.rank)

variable {f g : ConfigFault} {faults more : List ConfigFault}

private theorem Precedes.asymm (h : f.Precedes g) : ¬g.Precedes f := by
  have names : f.subject < g.subject → ¬g.subject < f.subject := String.lt_asymm
  rcases h with part | ⟨part, subject | ⟨subject, rank⟩⟩
  · rintro (h | ⟨h, -⟩) <;> omega
  · rintro (h | ⟨-, h | ⟨h, -⟩⟩)
    · omega
    · exact names subject h
    · exact String.lt_irrefl _ (h ▸ subject)
  · rintro (h | ⟨-, h | ⟨-, h⟩⟩)
    · omega
    · exact String.lt_irrefl _ (subject ▸ h)
    · omega

instance : Std.Asymm Precedes := ⟨fun _ _ => Precedes.asymm⟩

/-- Reports in order, about the parts from one up to another. -/
structure Spans (first last : Nat) (faults : List ConfigFault) : Prop where
  ordered : faults.Pairwise Precedes
  parts : ∀ f ∈ faults, first ≤ f.part ∧ f.part < last
  le : first ≤ last

theorem Spans.append {first middle last : Nat} (h : Spans first middle faults)
    (h' : Spans middle last more) : Spans first last (faults ++ more) where
  ordered := by
    refine List.pairwise_append.2 ⟨h.ordered, h'.ordered, fun f hf g hg => .inl ?_⟩
    exact Nat.lt_of_lt_of_le (h.parts f hf).2 (h'.parts g hg).1
  parts f hf := by
    rcases List.mem_append.1 hf with hf | hf
    · exact ⟨(h.parts f hf).1, Nat.lt_of_lt_of_le (h.parts f hf).2 h'.le⟩
    · exact ⟨Nat.le_trans h.le (h'.parts f hf).1, (h'.parts f hf).2⟩
  le := Nat.le_trans h.le h'.le

/-- What is said of each entry of a map comes in the order of their names. -/
theorem spans_flatMap {β : Type} {n : Nat} (m : NameMap β) {of : String × β → List ConfigFault}
    (each : ∀ entry, (of entry).Pairwise Precedes)
    (about : ∀ entry, ∀ f ∈ of entry, f.part = n ∧ f.subject = entry.1) :
    Spans n (n + 1) (m.toList.flatMap of) where
  ordered := by
    refine List.pairwise_flatMap.2 ⟨fun entry _ => each entry, ?_⟩
    refine m.increasing.imp fun smaller f hf g hg => ?_
    obtain ⟨fpart, fsubject⟩ := about _ f hf
    obtain ⟨gpart, gsubject⟩ := about _ g hg
    exact .inr ⟨fpart.trans gpart.symm, .inl (by rwa [fsubject, gsubject])⟩
  parts f hf := by
    obtain ⟨entry, -, hf⟩ := List.mem_flatMap.1 hf
    have part := (about entry f hf).1
    omega
  le := Nat.le_succ n

end ConfigFault

namespace Config

/-! ## The rules -/

/-- A rule that a record breaks, with the category or environment it is broken for. -/
inductive Breaks (c : Config) : ConfigFault → Prop
  | missingWatch {name : String} (has : name ∈ c.targets.entrypointFolders.keys)
      (lacks : name ∉ c.targets.watch.keys) : Breaks c (.missingWatch name)
  | blankEntrypointsFolder {name : String} {folder : Path}
      (has : (name, folder) ∈ c.targets.entrypointFolders.toList)
      (blank : Text.trim folder.text = "") : Breaks c (.blankEntrypointsFolder name)
  | missingEntrypointsFolder {name : String} (has : name ∈ c.targets.watch.keys)
      (lacks : name ∉ c.targets.entrypointFolders.keys) : Breaks c (.missingEntrypointsFolder name)
  | emptyWatchList {name : String} (has : (name, []) ∈ c.targets.watch.toList) :
      Breaks c (.emptyWatchList name)
  | blankWatchPath {name : String} {folders : List Path} {folder : Path}
      (has : (name, folders) ∈ c.targets.watch.toList) (mem : folder ∈ folders)
      (blank : Text.trim folder.text = "") : Breaks c (.blankWatchPath name)
  | argsWithoutSingleExecution {template : List ArgToken}
      (given : c.strategy.argsEach = some template) (unread : c.strategy.kind ≠ .singleExecution) :
      Breaks c (.argsWithoutSingleExecution c.strategy.kind)
  | noCommands (none : c.strategy.commands.keys = []) : Breaks c .noCommands
  | blankCommand {name command : String} (has : (name, command) ∈ c.strategy.commands.toList)
      (blank : Text.trim command = "") : Breaks c (.blankCommand name)
  | blankSetup {setup : String} (given : c.setup = some setup) (blank : Text.trim setup = "") :
      Breaks c .blankSetup
  | zeroDebounce (zero : c.watcher.debounceMs = 0) : Breaks c .zeroDebounce
  | zeroPollInterval (zero : c.watcher.pollIntervalMs = 0) : Breaks c .zeroPollInterval

structure Sound (c : Config) : Prop where
  categories : ∀ name, name ∈ c.targets.entrypointFolders.keys ↔ name ∈ c.targets.watch.keys
  folders : ∀ name folder, (name, folder) ∈ c.targets.entrypointFolders.toList →
    Text.trim folder.text ≠ ""
  lists : ∀ name folders, (name, folders) ∈ c.targets.watch.toList →
    folders ≠ [] ∧ ∀ folder ∈ folders, Text.trim folder.text ≠ ""
  template : c.strategy.argsEach = none ∨ c.strategy.kind = .singleExecution
  commands : c.strategy.commands.keys ≠ [] ∧
    ∀ name command, (name, command) ∈ c.strategy.commands.toList → Text.trim command ≠ ""
  setup : ∀ setup, c.setup = some setup → Text.trim setup ≠ ""
  periods : 0 < c.watcher.debounceMs ∧ 0 < c.watcher.pollIntervalMs

variable {c : Config} {t : Targets} {f : ConfigFault} {faults : List ConfigFault} {name : String}

theorem sound_iff : c.Sound ↔ ∀ f, ¬c.Breaks f := by
  constructor
  · rintro sound f (⟨has, lacks⟩ | ⟨has, blank⟩ | ⟨has, lacks⟩ | has | ⟨has, mem, blank⟩ |
      ⟨given, unread⟩ | none | ⟨has, blank⟩ | ⟨given, blank⟩ | zero | zero)
    · exact lacks ((sound.categories _).1 has)
    · exact sound.folders _ _ has blank
    · exact lacks ((sound.categories _).2 has)
    · exact (sound.lists _ _ has).1 rfl
    · exact (sound.lists _ _ has).2 _ mem blank
    · rcases sound.template with none | reads
      · cases none.symm.trans given
      · exact unread reads
    · exact sound.commands.1 none
    · exact sound.commands.2 _ _ has blank
    · exact sound.setup _ given blank
    · exact absurd sound.periods.1 (by simp [zero])
    · exact absurd sound.periods.2 (by simp [zero])
  · intro fine
    exact {
      categories := fun name => by
        constructor
        · intro has
          by_contra lacks
          exact fine _ (.missingWatch has lacks)
        · intro has
          by_contra lacks
          exact fine _ (.missingEntrypointsFolder has lacks)
      folders := fun _ _ has blank => fine _ (.blankEntrypointsFolder has blank)
      lists := fun _ _ has =>
        ⟨fun empty => fine _ (.emptyWatchList (empty ▸ has)),
          fun _ mem blank => fine _ (.blankWatchPath has mem blank)⟩
      template := by
        cases given : c.strategy.argsEach with
        | none => exact .inl rfl
        | some template =>
          refine .inr ?_
          by_contra unread
          exact fine _ (.argsWithoutSingleExecution given unread)
      commands := ⟨fun none => fine _ (.noCommands none),
        fun _ _ has blank => fine _ (.blankCommand has blank)⟩
      setup := fun _ given blank => fine _ (.blankSetup given blank)
      periods := ⟨UInt64.pos_iff_ne_zero.2 fun zero => fine _ (.zeroDebounce zero),
        UInt64.pos_iff_ne_zero.2 fun zero => fine _ (.zeroPollInterval zero)⟩ }

/-! ## What is reported -/

theorem validate_eq_error_iff : c.validate = .error faults ↔ faults ≠ [] ∧ c.faults = faults := by
  unfold validate
  split
  · rename_i none
    simp_all
  · rename_i some
    constructor
    · rintro h
      cases h
      exact ⟨by simpa using some, rfl⟩
    · rintro ⟨-, rfl⟩
      rfl

@[simp]
private theorem mem_broken {rule : Bool} {fault : ConfigFault} :
    f ∈ broken rule fault ↔ rule = true ∧ f = fault := by
  cases rule <;> simp [broken]

private theorem pairwise_broken {rule : Bool} {fault : ConfigFault} :
    (broken rule fault).Pairwise ConfigFault.Precedes := by
  cases rule <;> simp [broken]

theorem not_contains_iff {β : Type} {m : NameMap β} :
    (!m.contains name) = true ↔ name ∉ m.keys := by
  rw [← NameMap.contains_iff, Bool.not_eq_true', Bool.not_eq_true]

private theorem mem_folderFaults {folder : Path} : f ∈ folderFaults t name folder ↔
    (name ∉ t.watch.keys ∧ f = .missingWatch name) ∨
      (Text.trim folder.text = "" ∧ f = .blankEntrypointsFolder name) := by
  rw [folderFaults, List.mem_append, mem_broken, mem_broken, not_contains_iff, Path.isBlank,
    Text.isBlank_iff]

private theorem mem_watchFaults {folders : List Path} : f ∈ watchFaults t name folders ↔
    (name ∉ t.entrypointFolders.keys ∧ f = .missingEntrypointsFolder name) ∨
      (folders = [] ∧ f = .emptyWatchList name) ∨
        ((∃ folder ∈ folders, Text.trim folder.text = "") ∧ f = .blankWatchPath name) := by
  rw [watchFaults, List.mem_append, mem_broken, not_contains_iff]
  cases folders with
  | nil => simp
  | cons first rest => simp [Path.isBlank, Text.isBlank_iff]

private theorem mem_strategyFaults {s : StrategySettings} : f ∈ strategyFaults s ↔
    ((∃ template, s.argsEach = some template) ∧ s.kind ≠ .singleExecution ∧
        f = .argsWithoutSingleExecution s.kind) ∨
      (s.commands.keys = [] ∧ f = .noCommands) ∨
        ∃ name command, (name, command) ∈ s.commands.toList ∧ Text.trim command = "" ∧
          f = .blankCommand name := by
  have none : s.commands.isEmpty = true ↔ s.commands.keys = [] := by
    rw [Sorted.isEmpty, List.isEmpty_iff, NameMap.keys, List.map_eq_nil_iff]
  simp only [strategyFaults, List.mem_append, List.mem_flatMap, mem_broken, Prod.exists, none,
    Text.isBlank_iff, Bool.and_eq_true, Option.isSome_iff_exists, bne_iff_ne, and_assoc, or_assoc]

/-- The reports are about the rules that are broken, and about nothing else. -/
theorem mem_faults : f ∈ c.faults ↔ c.Breaks f := by
  simp only [faults, List.mem_append, List.mem_flatMap, Prod.exists, mem_folderFaults,
    mem_watchFaults, mem_strategyFaults, mem_broken, Option.any_eq_true, Text.isBlank_iff,
    beq_iff_eq]
  constructor
  · rintro (((((⟨name, folder, has, ⟨lacks, rfl⟩ | ⟨blank, rfl⟩⟩ |
      ⟨name, folders, has, ⟨lacks, rfl⟩ | ⟨rfl, rfl⟩ | ⟨⟨folder, mem, blank⟩, rfl⟩⟩) |
      ⟨⟨template, given⟩, unread, rfl⟩ | ⟨none, rfl⟩ | ⟨name, command, has, blank, rfl⟩) |
      ⟨⟨setup, given, blank⟩, rfl⟩) | ⟨zero, rfl⟩) | ⟨zero, rfl⟩)
    · exact .missingWatch (List.mem_map_of_mem has) lacks
    · exact .blankEntrypointsFolder has blank
    · exact .missingEntrypointsFolder (List.mem_map_of_mem has) lacks
    · exact .emptyWatchList has
    · exact .blankWatchPath has mem blank
    · exact .argsWithoutSingleExecution given unread
    · exact .noCommands none
    · exact .blankCommand has blank
    · exact .blankSetup given blank
    · exact .zeroDebounce zero
    · exact .zeroPollInterval zero
  · rintro (⟨has, lacks⟩ | ⟨has, blank⟩ | ⟨has, lacks⟩ | has | ⟨has, mem, blank⟩ |
      ⟨given, unread⟩ | none | ⟨has, blank⟩ | ⟨given, blank⟩ | zero | zero)
    · obtain ⟨⟨name, folder⟩, entry, rfl⟩ := List.mem_map.1 has
      exact .inl (.inl (.inl (.inl (.inl ⟨name, folder, entry, .inl ⟨lacks, rfl⟩⟩))))
    · exact .inl (.inl (.inl (.inl (.inl ⟨_, _, has, .inr ⟨blank, rfl⟩⟩))))
    · obtain ⟨⟨name, folders⟩, entry, rfl⟩ := List.mem_map.1 has
      exact .inl (.inl (.inl (.inl (.inr ⟨name, folders, entry, .inl ⟨lacks, rfl⟩⟩))))
    · exact .inl (.inl (.inl (.inl (.inr ⟨_, _, has, .inr (.inl ⟨rfl, rfl⟩)⟩))))
    · exact .inl (.inl (.inl (.inl (.inr ⟨_, _, has, .inr (.inr ⟨⟨_, mem, blank⟩, rfl⟩)⟩))))
    · exact .inl (.inl (.inl (.inr (.inl ⟨⟨_, given⟩, unread, rfl⟩))))
    · exact .inl (.inl (.inl (.inr (.inr (.inl ⟨none, rfl⟩)))))
    · exact .inl (.inl (.inl (.inr (.inr (.inr ⟨_, _, has, blank, rfl⟩)))))
    · exact .inl (.inl (.inr ⟨⟨_, given, blank⟩, rfl⟩))
    · exact .inl (.inr ⟨zero, rfl⟩)
    · exact .inr ⟨zero, rfl⟩

private theorem pairwise_folderFaults {folder : Path} :
    (folderFaults t name folder).Pairwise ConfigFault.Precedes := by
  refine List.pairwise_append.2 ⟨pairwise_broken, pairwise_broken, fun f hf g hg => ?_⟩
  obtain ⟨-, rfl⟩ := mem_broken.1 hf
  obtain ⟨-, rfl⟩ := mem_broken.1 hg
  exact .inr ⟨rfl, .inr ⟨rfl, Nat.one_pos⟩⟩

private theorem pairwise_watchFaults {folders : List Path} :
    (watchFaults t name folders).Pairwise ConfigFault.Precedes := by
  have lists : (if folders.isEmpty then [.emptyWatchList name]
      else broken (folders.any Path.isBlank) (.blankWatchPath name)).Pairwise
        ConfigFault.Precedes := by
    split
    · exact List.pairwise_singleton ..
    · exact pairwise_broken
  refine List.pairwise_append.2 ⟨pairwise_broken, lists, fun f hf g hg => ?_⟩
  obtain ⟨-, rfl⟩ := mem_broken.1 hf
  split at hg
  · obtain rfl := List.mem_singleton.1 hg
    exact .inr ⟨rfl, .inr ⟨rfl, Nat.one_pos⟩⟩
  · obtain ⟨-, rfl⟩ := mem_broken.1 hg
    exact .inr ⟨rfl, .inr ⟨rfl, Nat.one_pos⟩⟩

private theorem spans_broken {rule : Bool} {fault : ConfigFault} {n : Nat} (part : fault.part = n) :
    ConfigFault.Spans n (n + 1) (broken rule fault) where
  ordered := pairwise_broken
  parts f hf := by
    obtain ⟨-, rfl⟩ := mem_broken.1 hf
    omega
  le := Nat.le_succ _

private theorem spans_strategyFaults {s : StrategySettings} :
    ConfigFault.Spans 2 5 (strategyFaults s) := by
  have template : ConfigFault.Spans 2 3 (broken (s.argsEach.isSome && s.kind != .singleExecution)
      (.argsWithoutSingleExecution s.kind)) := spans_broken rfl
  have some : ConfigFault.Spans 3 4 (broken s.commands.isEmpty .noCommands) := spans_broken rfl
  refine (template.append some).append (ConfigFault.spans_flatMap s.commands ?_ ?_)
  · exact fun _ => pairwise_broken
  · intro entry f h
    obtain ⟨-, rfl⟩ := mem_broken.1 h
    exact ⟨rfl, rfl⟩

/-- The reports come in order. -/
theorem spans_faults (c : Config) : ConfigFault.Spans 0 8 c.faults := by
  have folders : ConfigFault.Spans 0 1 (c.targets.entrypointFolders.toList.flatMap
      fun e => folderFaults c.targets e.1 e.2) := by
    refine ConfigFault.spans_flatMap _ (fun _ => pairwise_folderFaults) fun entry f h => ?_
    rcases mem_folderFaults.1 h with ⟨-, rfl⟩ | ⟨-, rfl⟩ <;> exact ⟨rfl, rfl⟩
  have lists : ConfigFault.Spans 1 2 (c.targets.watch.toList.flatMap
      fun e => watchFaults c.targets e.1 e.2) := by
    refine ConfigFault.spans_flatMap _ (fun _ => pairwise_watchFaults) fun entry f h => ?_
    rcases mem_watchFaults.1 h with ⟨-, rfl⟩ | ⟨-, rfl⟩ | ⟨-, rfl⟩ <;> exact ⟨rfl, rfl⟩
  have settings := (folders.append lists).append (spans_strategyFaults (s := c.strategy))
  exact ((settings.append (spans_broken rfl)).append (spans_broken rfl)).append (spans_broken rfl)

/-- A configuration is accepted if it makes sense. Otherwise each rule that it breaks is reported,
once for each category or environment, and nothing else, in the order of the record; and a watch
list is never reported both as empty and for a blank path. -/
theorem validate_exact (c : Config) :
    (c.validate = .ok () ↔ c.Sound) ∧
    (∀ faults, c.validate = .error faults ↔
      faults ≠ [] ∧ (∀ f, f ∈ faults ↔ c.Breaks f) ∧ faults.Nodup ∧
        faults.Pairwise ConfigFault.Precedes) ∧
    ∀ name, ¬(c.Breaks (.emptyWatchList name) ∧ c.Breaks (.blankWatchPath name)) := by
  have ordered := (spans_faults c).ordered
  refine ⟨?_, fun faults => ⟨?_, ?_⟩, ?_⟩
  · rw [validate_eq_ok_iff, List.eq_nil_iff_forall_not_mem, sound_iff]
    exact forall_congr' fun f => not_congr mem_faults
  · intro h
    obtain ⟨some, rfl⟩ := validate_eq_error_iff.1 h
    exact ⟨some, fun f => mem_faults, ordered.nodup, ordered⟩
  · rintro ⟨some, exact, -, inOrder⟩
    have same : faults = c.faults :=
      inOrder.eq_of_mem_iff ordered fun f => (exact f).trans mem_faults.symm
    exact validate_eq_error_iff.2 ⟨some, same.symm⟩
  · rintro name ⟨empty, blank⟩
    cases empty with
    | emptyWatchList entry =>
      cases blank with
      | blankWatchPath other mem =>
        have one := NameMap.get?_eq_some_iff.2 entry
        rw [NameMap.get?_eq_some_iff.2 other] at one
        cases one
        cases mem

end Config

end AssetWatch
