import AssetWatch.Config.Encode
import AssetWatch.Proofs.Config.Layout

/-!
# Configurations read back

The document of a configuration is read back as that configuration: every field is written as its
reader takes it, and the only one that is left out where nothing is given stands for nothing then. So
a configuration is settled by its document, however that is laid out.
-/

namespace AssetWatch

open Data (Value)
open Data.Value (Keyed)

namespace Schema

/-- What is written of anything is read back as it was, and has no key twice. -/
structure Inverts {α : Type} (item : Reader α) (write : α → Value) : Prop where
  reads : ∀ a, item (write a) = .ok a
  keyed : ∀ a, (write a).Keyed

variable {α : Type} {item : Reader α} {write : α → Value}

/-! ## Scalars, lists and maps -/

private theorem inverts_text : Inverts text .text := ⟨fun _ => rfl, .text⟩

private theorem inverts_boolean : Inverts boolean .boolean := ⟨fun _ => rfl, .boolean⟩

private theorem inverts_word (kind : String) : Inverts (word kind) encodeWord where
  reads n := by
    have bound : (0 : Int) ≤ n.toNat ∧ (n.toNat : Int) < 2 ^ 64 := by
      have := n.toNat_lt
      omega
    rw [encodeWord, word, if_pos bound, Int.toNat_natCast, UInt64.ofNat_toNat]
  keyed n := .integer n.toNat

private theorem inverts_optional (h : Inverts item write) (given : ∀ a, write a ≠ .null) :
    Inverts (optional item) fun a? => a?.elim .null write where
  reads a? := by
    cases a? with
    | none => rfl
    | some a =>
      have read : optional item (write a) = (item (write a)).map some := by
        rw [optional]
        exact given a
      rw [Option.elim, read, h.reads]
      rfl
  keyed a? := by
    cases a? with
    | none => exact .null
    | some a => exact h.keyed a

private theorem inverts_encodeOptional : Inverts (optional text) encodeOptional := by
  have same : encodeOptional = fun s? => s?.elim .null .text := by
    funext s?
    cases s? <;> rfl
  rw [same]
  exact inverts_optional inverts_text nofun

private theorem inverts_list (h : Inverts item write) :
    Inverts (list item) fun items => .list (items.map write) where
  reads := mapM_map_eq_ok h.reads
  keyed _ := .list (List.forall_mem_map.2 fun a _ => h.keyed a)

private theorem inverts_map (h : Inverts item write) :
    Inverts (NameMap.decode item) (NameMap.encode write) where
  reads m := by
    have entry (e : String × α) : readEntry item (e.1, write e.2) = .ok e :=
      congrArg (Except.map fun a => (e.1, a)) (h.reads e.2)
    rw [NameMap.encode, decode_of_entries? rfl, mapM_map_eq_ok entry]
    exact congrArg Except.ok (Sorted.ofList_toList m)
  keyed m := by
    rw [NameMap.encode, Data.Value.keyed_table, List.map_map]
    exact ⟨m.nodup_keys, List.forall_mem_map.2 fun e _ => h.keyed e.2⟩

/-! ## Names -/

private theorem inverts_oneOf {name : α → String} {all : List α} (names : (all.map name).Nodup)
    (mem : ∀ a, a ∈ all) : Inverts (oneOf name all) fun a => .text (name a) where
  reads a := by
    have known : (all.map name).contains (name a) = true := by simpa using ⟨a, mem a, rfl⟩
    simp only [oneOf, named, known, if_true, bind, Except.bind, find?_of_nodup names (mem a)]
    rfl
  keyed a := .text (name a)

/-! ## Records -/

variable {δ : Type} {fields : List (FieldReader δ)} {draft result : δ}
  {entries : List (String × Value)}

/-- Entries that set fields one after the other, each to what was written. -/
inductive Writes (fields : List (FieldReader δ)) : δ → List (String × Value) → δ → Prop
  | nil {draft : δ} : Writes fields draft [] draft
  | cons {draft result : δ} {entries : List (String × Value)} {α : Type} {item : Reader α}
      {write : α → Value} {name : String} {keep : δ → α → δ} {a : α}
      (mem : field name item keep ∈ fields) (inverts : Inverts item write)
      (rest : Writes fields (keep draft a) entries result) :
      Writes fields draft ((name, write a) :: entries) result

/-- An entry with the name of what is written. -/
theorem Writes.named {label : α → String} {name : String} {keep : δ → α → δ} {a : α}
    (mem : field name item keep ∈ fields) (inverts : Inverts item fun a => .text (label a))
    (rest : Writes fields (keep draft a) entries result) :
    Writes fields draft ((name, .text (label a)) :: entries) result :=
  .cons (a := a) mem inverts rest

theorem Writes.reads (orderless : Orderless fields) (h : Writes fields draft entries result) :
    entries.foldlM (setEntry fields) draft = .ok result := by
  induction h with
  | nil => rfl
  | cons mem inverts _ ih =>
    rw [List.foldlM_cons, setEntry_of_some (orderless.find?_name mem)]
    simp only [field, inverts.reads]
    exact ih

theorem Writes.keyed (h : Writes fields draft entries result)
    (keys : (entries.map Prod.fst).Nodup) :
    (Value.table entries).Keyed := by
  refine .table keys ?_
  clear keys
  induction h with
  | nil => exact nofun
  | cons _ inverts _ ih => exact List.forall_mem_cons.2 ⟨inverts.keyed _, ih⟩

private theorem inverts_record (orderless : Orderless fields) {name : String}
    {contents : δ → List (String × Value)}
    (writes : ∀ r, Writes fields draft (contents r) r)
    (keys : ∀ r, ((contents r).map Prod.fst).Nodup) :
    Inverts (record name fields draft) fun r => .table (contents r) where
  reads r := (writes r).reads orderless
  keyed r := (writes r).keyed (keys r)

end Schema

open Schema (Inverts Writes)

/-! ## The sections of a configuration -/

private theorem Path.inverts_decode :
    Inverts Path.decode Path.encode := ⟨fun _ => rfl, fun p => .text p.text⟩

private theorem StrategyKind.inverts_decode : Inverts StrategyKind.decode fun k => .text k.name :=
  Schema.inverts_oneOf (by decide) fun k => by cases k <;> decide

private theorem ArgVariable.inverts_decode : Inverts ArgVariable.decode fun x => .text x.name :=
  Schema.inverts_oneOf (by decide) fun x => by cases x <;> decide

private theorem LogFormat.inverts_decode : Inverts LogFormat.decode fun f => .text f.name :=
  Schema.inverts_oneOf (by decide) fun f => by cases f <;> decide

private theorem ArgToken.inverts_decode : Inverts ArgToken.decode ArgToken.encode where
  reads token := by
    cases token with
    | text s => rfl
    | var x => exact congrArg (Except.map ArgToken.var) (ArgVariable.inverts_decode.reads x)
  keyed token := by
    cases token <;> exact .table (List.nodup_singleton _) (by simpa using .text _)

private theorem Targets.inverts_decode : Inverts Targets.decode Targets.encode :=
  Schema.inverts_record orderless
    (fun _ =>
      .cons (.head _) (Schema.inverts_map Path.inverts_decode) <|
      .cons (.tail _ (.head _)) (Schema.inverts_map (Schema.inverts_list Path.inverts_decode)) .nil)
    fun _ => by simp

private theorem Observability.inverts_decode : Inverts Observability.decode Observability.encode :=
  Schema.inverts_record orderless
    (fun _ =>
      .cons (.head _) Schema.inverts_text <|
      Writes.named (.tail _ (.head _)) LogFormat.inverts_decode <|
      .cons (.tail _ (.tail _ (.head _))) Schema.inverts_encodeOptional .nil)
    fun _ => by simp

private theorem WatcherSettings.inverts_decode :
    Inverts WatcherSettings.decode WatcherSettings.encode :=
  Schema.inverts_record orderless
    (fun _ =>
      .cons (.head _) (Schema.inverts_word "u64") <|
      .cons (.tail _ (.head _)) (Schema.inverts_word "u64") <|
      .cons (.tail _ (.tail _ (.head _))) Schema.inverts_boolean .nil)
    fun _ => by simp

private theorem ExecutionLimits.inverts_decode :
    Inverts ExecutionLimits.decode ExecutionLimits.encode :=
  Schema.inverts_record orderless
    (fun _ =>
      .cons (.head _) (Schema.inverts_word "usize") <|
      .cons (.tail _ (.head _)) (Schema.inverts_word "u64") <|
      .cons (.tail _ (.tail _ (.head _))) Schema.inverts_boolean .nil)
    fun _ => by simp

private theorem StrategySettings.inverts_decode :
    Inverts StrategySettings.decode StrategySettings.encode := by
  have writes (s : StrategySettings) : ∃ entries, s.encode = .table entries ∧
      (entries.map Prod.fst).Nodup ∧
      Writes fields {} entries ⟨some s.kind, s.argsEach, s.commands⟩ := by
    obtain ⟨kind, argsEach, commands⟩ := s
    have commands : Writes fields ⟨some kind, argsEach, .empty⟩
        [("cmds", NameMap.encode Value.text commands)] ⟨some kind, argsEach, commands⟩ :=
      .cons (.tail _ (.tail _ (.head _))) (Schema.inverts_map Schema.inverts_text) .nil
    cases argsEach with
    | none =>
      exact ⟨_, rfl, by simp, Writes.named (.head _) StrategyKind.inverts_decode commands⟩
    | some tokens =>
      have template := Schema.inverts_optional (Schema.inverts_list ArgToken.inverts_decode) nofun
      exact ⟨_, rfl, by simp, Writes.named (.head _) StrategyKind.inverts_decode <|
        .cons (a := some tokens) (.tail _ (.head _)) template commands⟩
  constructor
  · intro s
    obtain ⟨entries, same, -, writes⟩ := writes s
    rw [same]
    exact congrArg (· >>= _) (writes.reads orderless)
  · intro s
    obtain ⟨entries, same, keys, writes⟩ := writes s
    rw [same]
    exact writes.keyed keys

namespace Config

private theorem inverts_decode : Inverts decode encode := by
  have writes (c : Config) : Writes fields {} _ ⟨c.setup, some c.targets, some c.strategy,
      c.observability, c.watcher, c.execution⟩ :=
    .cons (.head _) Schema.inverts_encodeOptional <|
    .cons (.tail _ (.head _)) Targets.inverts_decode <|
    .cons (.tail _ (.tail _ (.head _))) StrategySettings.inverts_decode <|
    .cons (.tail _ (.tail _ (.tail _ (.head _)))) Observability.inverts_decode <|
    .cons (.tail _ (.tail _ (.tail _ (.tail _ (.head _))))) WatcherSettings.inverts_decode <|
    .cons (.tail _ (.tail _ (.tail _ (.tail _ (.tail _ (.head _)))))) ExecutionLimits.inverts_decode .nil
  constructor
  · intro c
    exact congrArg (· >>= _) ((writes c).reads orderless)
  · intro c
    exact (writes c).keyed (by simp)

def withTemplate (c : Config) (template : Option (List ArgToken)) : Config :=
  { c with strategy := { c.strategy with argsEach := template } }

private theorem encode_inj {c c' : Config} : c.encode = c'.encode ↔ c = c' := by
  refine ⟨fun same => ?_, congrArg encode⟩
  have read := inverts_decode.reads c
  rw [same, inverts_decode.reads c'] at read
  exact (Except.ok.inj read).symm

/-- A configuration is read back from its document, and from whatever says the same: with its
template as it was, be that left out, empty or the one that stands for none, with the same
categories and as valid as before. So no two configurations have one document. -/
theorem decode_encode (c : Config) :
    decode c.encode = .ok c ∧
    ofDocument c.encode = (c.validate.mapError .invalid >>= fun _ => .ok c) ∧
    (∀ document, SameContent c.encode document → decode document = .ok c) ∧
    (∀ document c', SameContent c.encode document → decode document = .ok c' →
      c'.strategy.argsTemplate = c.strategy.argsTemplate ∧ c'.categories = c.categories ∧
        c'.validate = c.validate) ∧
    (∀ c' : Config, c.encode = c'.encode ↔ c = c') ∧
    ∀ template template', (c.withTemplate template).encode = (c.withTemplate template').encode ↔
      template = template' := by
  have reads := inverts_decode.reads c
  have again (document : Value) (same : SameContent c.encode document) : decode document = .ok c :=
    (same.sameResult (inverts_decode.keyed c)).eq_ok_iff.1 reads
  refine ⟨reads, ?_, again, fun document c' same read => ?_, fun c' => encode_inj, fun t t' => ?_⟩
  · rw [ofDocument, reads]
    rfl
  · obtain rfl : c = c' := Except.ok.inj ((again document same).symm.trans read)
    exact ⟨rfl, rfl, rfl⟩
  · rw [encode_inj]
    refine ⟨fun same => ?_, fun same => by rw [same]⟩
    exact congrArg (fun c : Config => c.strategy.argsEach) same

/-- Without a template, with an empty one and with the one that stands for none, a configuration is
written in three ways; and it is read back when the sections of its document change places. -/
theorem decode_encode_templates :
    let c : Config := {
      setup := some "make tools"
      targets := {
        entrypointFolders := .ofList [("css", ⟨"styles"⟩), ("js", ⟨"src/js"⟩)]
        watch := .ofList [("css", [⟨"styles"⟩]), ("js", [⟨"src/js"⟩, ⟨"lib"⟩])] }
      strategy := {
        kind := .singleExecution
        commands := .ofList [("live", "bin/bundle"), ("test", "bundle")] } }
    (c.withTemplate none).encode ≠ (c.withTemplate (some [])).encode ∧
    (c.withTemplate none).encode ≠ (c.withTemplate (some [.var .entrypoint])).encode ∧
    (c.withTemplate (some [])).encode ≠ (c.withTemplate (some [.var .entrypoint])).encode ∧
    decode (.table [("execution", c.execution.encode), ("watcher", c.watcher.encode),
      ("observability", c.observability.encode), ("strategy", c.strategy.encode),
      ("targets", c.targets.encode), ("initialize", .text "make tools")]) = .ok c := by
  intro c
  obtain ⟨-, -, again, -, -, templates⟩ := decode_encode c
  refine ⟨fun h => ?_, fun h => ?_, fun h => ?_, again _ (.rel _ _ (.order (.entries ?_)))⟩
  · cases (templates _ _).1 h
  · cases (templates _ _).1 h
  · cases (templates _ _).1 h
  · exact (List.reverse_perm _).symm

end Config

end AssetWatch
