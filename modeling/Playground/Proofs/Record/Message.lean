import Playground.Host
import Playground.Proofs.Json.Reading

/-! Records read back from the values that were made of them, up to a whole message. -/

namespace Playground

namespace Record

theorem optional_eq_some {read : Json → Decoded α} {v : Json} {a : α} (h : read v = .ok a)
    (hv : v ≠ .null) :
    optional read v = .ok (some a) := by
  unfold optional
  split
  · exact absurd rfl hv
  · rw [h]
    rfl

theorem items_map {read : Json → Decoded α} {write : α → Json}
    (h : ∀ a, read (write a) = .ok a) (index : Nat)
    (as : List α) : items read index (as.map write) = .ok as := by
  induction as generalizing index with
  | nil => rfl
  | cons a as ih =>
    rw [List.map_cons, items, h a]
    change (items read (index + 1) (as.map write)).bind _ = _
    rw [ih]
    rfl

theorem compiled_toJson (c : Compiled) : compiled c.toJson = .ok c := by
  obtain ⟨_ | esjs, _ | js⟩ := c
  · rfl
  · rfl
  · rfl
  · have hsort : sortMembers [("esjs", .string esjs), ("js", .string js)] =
        [("esjs", .string esjs), ("js", .string js)] := by
      simp only [sortMembers, List.foldl_cons, List.foldl_nil, insertMember, String.reduceLT,
        String.reduceEq, if_false]
    change record "CompiledCode" compiledFields {} true
      (.object [("esjs", .string esjs), ("js", .string js)]) = _
    rw [record, hsort]
    rfl

theorem prepared_toJson (p : Prepared) : prepared p.toJson = .ok p := by
  have hsort :
      sortMembers [("imports", .string p.imports), ("codeWithoutImports", .string p.body)] =
        [("codeWithoutImports", .string p.body), ("imports", .string p.imports)] := by
    simp only [sortMembers, List.foldl_cons, List.foldl_nil, insertMember, String.reduceLT, if_true]
  rw [prepared, Prepared.toJson, record, hsort]
  rfl

theorem fileError_toJson (e : FileError) : fileError e.toJson = .ok e := by
  have hsort :
      sortMembers [("message", .string e.message), ("line", .integer e.line),
          ("column", .integer e.column), ("stack", .string e.stack)] =
        [("column", .integer e.column), ("line", .integer e.line), ("message", .string e.message),
          ("stack", .string e.stack)] := by
    simp only [sortMembers, List.foldl_cons, List.foldl_nil, insertMember, String.reduceLT,
      String.reduceEq, if_true, if_false]
  rw [fileError, FileError.toJson, record, hsort]
  rfl

theorem sortMembers_file (f : File) :
    sortMembers ([("name", .string f.name), ("content", .string f.content)]
        ++ (if f.isMain then [("main", .bool true)] else [])
        ++ Json.optionalMember "compiled" Compiled.toJson f.compiled
        ++ Json.optionalMember "sandboxed" Prepared.toJson f.prepared
        ++ Json.optionalMember "error" FileError.toJson f.error) =
      Json.optionalMember "compiled" Compiled.toJson f.compiled ++ [("content", .string f.content)]
        ++ Json.optionalMember "error" FileError.toJson f.error
        ++ (if f.isMain then [("main", .bool true)] else []) ++ [("name", .string f.name)]
        ++ Json.optionalMember "sandboxed" Prepared.toJson f.prepared := by
  obtain ⟨name, content, isMain, compiled?, prepared?, error?⟩ := f
  cases isMain <;> cases compiled? <;> cases prepared? <;> cases error? <;>
    simp only [Json.optionalMember, Option.elim_none, Option.elim_some, List.cons_append,
      List.nil_append,
      List.append_nil, sortMembers, List.foldl_cons, List.foldl_nil, insertMember, String.reduceLT,
      String.reduceEq,
      if_true, if_false, Bool.false_eq_true]

/-- What a file leaves out has the value that it is read with when it is left out. -/
theorem file_toJson (f : File) : file f.toJson = .ok f := by
  have hcompiled (c : Compiled) : optional compiled c.toJson = .ok (some c) :=
    optional_eq_some (compiled_toJson c) (by simp [Compiled.toJson])
  have hprepared (p : Prepared) : optional prepared p.toJson = .ok (some p) :=
    optional_eq_some (prepared_toJson p) (by simp [Prepared.toJson])
  have herror (e : FileError) : optional fileError e.toJson = .ok (some e) :=
    optional_eq_some (fileError_toJson e) (by simp [FileError.toJson])
  rw [file, File.toJson, record, sortMembers_file]
  obtain ⟨name, content, isMain, compiled?, prepared?, error?⟩ := f
  cases isMain <;> cases compiled? <;> cases prepared? <;> cases error? <;>
    simp [Json.optionalMember, readMembers, fileFields, Field.isNamed, hcompiled, hprepared,
      herror, string, bool, within, Except.mapError, bind, Except.bind, pure, Except.pure]

theorem message_toJson (m : Message) : message m.toJson = .ok m := by
  have hsort :
      sortMembers [("action", .string m.action),
        ("filesCompiled", .array (m.files.map File.toJson))] =
        [("action", .string m.action), ("filesCompiled", .array (m.files.map File.toJson))] := by
    simp only [sortMembers, List.foldl_cons, List.foldl_nil, insertMember, String.reduceLT,
      String.reduceEq, if_false]
  have hfiles : list file (.array (m.files.map File.toJson)) = .ok m.files :=
    items_map file_toJson 0 m.files
  rw [message, Message.toJson, record, hsort]
  simp [readMembers, messageFields, Field.isNamed, hfiles, string, within, Except.mapError, bind,
    Except.bind, pure, Except.pure]

end Record

/-! ### What messages are made of -/

/-- The lines and columns that a message tells are words of 64 bits. -/
def Message.TellsWords (m : Message) : Prop :=
  ∀ f ∈ m.files, ∀ e ∈ f.error, e.line < 0x10000000000000000 ∧ e.column < 0x10000000000000000

section

open Json

theorem Json.Whole.optionalMember {key : String} {write : α → Json} {value : Option α}
    (h : ∀ a ∈ value, Whole (write a)) : ∀ m ∈ Json.optionalMember key write value, Whole m.2 := by
  intro m hm
  cases value with
  | none => cases hm
  | some a =>
    obtain rfl := List.mem_singleton.mp hm
    exact h a rfl

theorem Compiled.whole_toJson (c : Compiled) : Whole c.toJson := by
  refine .object (List.forall_mem_append.mpr ⟨?_, ?_⟩)
  · exact Whole.optionalMember fun s _ => .string s
  · exact Whole.optionalMember fun s _ => .string s

theorem Prepared.whole_toJson (p : Prepared) : Whole p.toJson := by
  refine .object ?_
  simp only [List.forall_mem_cons, List.not_mem_nil, false_implies, implies_true, and_true]
  exact ⟨.string _, .string _⟩

theorem FileError.whole_toJson {e : FileError}
    (h : e.line < 0x10000000000000000 ∧ e.column < 0x10000000000000000) : Whole e.toJson := by
  refine .object ?_
  simp only [List.forall_mem_cons, List.not_mem_nil, false_implies, implies_true, and_true]
  refine ⟨.string _, .integer ?_, .integer ?_, .string _⟩
  · unfold IsWord
    omega
  · unfold IsWord
    omega

theorem File.whole_toJson {f : File}
    (h : ∀ e ∈ f.error, e.line < 0x10000000000000000 ∧
      e.column < 0x10000000000000000) : Whole f.toJson := by
  refine .object ?_
  simp only [List.forall_mem_append]
  refine ⟨⟨⟨⟨?_, ?_⟩, ?_⟩, ?_⟩, ?_⟩
  · simp only [List.forall_mem_cons, List.not_mem_nil, false_implies, implies_true, and_true]
    exact ⟨.string _, .string _⟩
  · cases f.isMain
    · simp
    · simpa using Whole.bool true
  · exact Whole.optionalMember fun c _ => c.whole_toJson
  · exact Whole.optionalMember fun p _ => p.whole_toJson
  · exact Whole.optionalMember fun e he => FileError.whole_toJson (h e he)

theorem Message.whole_toJson {m : Message} (h : m.TellsWords) : Whole m.toJson := by
  refine .object ?_
  simp only [List.forall_mem_cons, List.not_mem_nil, false_implies, implies_true, and_true]
  refine ⟨.string _, .array fun v hv => ?_⟩
  obtain ⟨f, hf, rfl⟩ := List.mem_map.mp hv
  exact File.whole_toJson (h f hf)

end

end Playground
