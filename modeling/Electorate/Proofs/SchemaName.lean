import Electorate.Config.Connection
import Electorate.Config.Settings

/-!
# Names of schemas

The tables of one deployment may stand in a schema of their own. Its name goes as it is into the
search path of every connection, so it is checked when the environment is read.

* `IsSchemaName`: a lower-case letter or an underscore, and at most 62 lower-case letters, digits
  and underscores after it.
* `isSchemaName_iff`: the check lets schema names through, each with a line end behind it or none.
* `Settings.ofEnvironment_append`: what becomes of settings when a schema is chosen for them.
* `Settings.schema_accepted_iff`: which texts are taken as schema, and the search paths of them.
  `Settings.not_schemaName_lineEnd`: one with a line end in it.
-/

namespace Electorate

open Electorate.Form (Checked)

/-! ## The check -/

/-- A lower-case letter or an underscore in front of at most 62 lower-case letters, digits and
underscores. -/
def IsSchemaName (s : String) : Prop :=
  ∃ c rest, s.toList = c :: rest ∧ ('a' ≤ c ∧ c ≤ 'z' ∨ c = '_') ∧
    (∀ d ∈ rest, 'a' ≤ d ∧ d ≤ 'z' ∨ d = '_' ∨ '0' ≤ d ∧ d ≤ '9') ∧ rest.length ≤ 62

theorem isSchemaStart_iff {c : Char} : isSchemaStart c = true ↔ 'a' ≤ c ∧ c ≤ 'z' ∨ c = '_' := by
  simp [isSchemaStart]

theorem isSchemaPart_iff {c : Char} :
    isSchemaPart c = true ↔ 'a' ≤ c ∧ c ≤ 'z' ∨ c = '_' ∨ '0' ≤ c ∧ c ≤ '9' := by
  simp [isSchemaPart, isSchemaStart_iff, or_assoc]

theorem IsSchemaName.newline_not_mem {s : String} (h : IsSchemaName s) : '\n' ∉ s.toList := by
  obtain ⟨c, rest, hs, hstart, hrest, -⟩ := h
  rw [hs, List.mem_cons]
  rintro (rfl | hmem)
  · exact absurd hstart (by decide)
  · exact absurd (hrest _ hmem) (by decide)

/-- Without a line end at its end a text is checked as it is. -/
theorem isSchemaName_of_getLast? {s : String} (h : s.toList.getLast? ≠ some '\n') :
    isSchemaName s = true ↔ IsSchemaName s := by
  unfold isSchemaName IsSchemaName
  dsimp only
  rw [if_neg h]
  cases s.toList with
  | nil => simp
  | cons c rest => simp [isSchemaStart_iff, isSchemaPart_iff, and_assoc]

/-- Of a text with a line end at its end the rest is checked. -/
theorem isSchemaName_lineEnd (s : String) : isSchemaName (s ++ "\n") = true ↔ IsSchemaName s := by
  have hlist : (s ++ "\n").toList = s.toList ++ ['\n'] := String.toList_append
  unfold isSchemaName IsSchemaName
  dsimp only
  rw [hlist, if_pos List.getLast?_concat, List.dropLast_concat]
  cases s.toList with
  | nil => simp
  | cons c rest => simp [isSchemaStart_iff, isSchemaPart_iff, and_assoc]

/-- A schema name, with a line end behind it or none. -/
def IsSchemaLine (s : String) : Prop :=
  ∃ name, IsSchemaName name ∧ (s = name ∨ s = name ++ "\n")

theorem isSchemaName_iff {s : String} : isSchemaName s = true ↔ IsSchemaLine s := by
  by_cases hlast : s.toList.getLast? = some '\n'
  · obtain ⟨cs, hcs⟩ := List.getLast?_eq_some_iff.mp hlast
    obtain rfl : s = String.ofList cs ++ "\n" := by
      rw [← String.toList_inj, hcs, String.toList_append, String.toList_ofList]
      rfl
    rw [isSchemaName_lineEnd]
    refine ⟨fun h => ⟨_, h, .inr rfl⟩, ?_⟩
    -- No name has a line end in it, so that the one at the end stands behind the name.
    rintro ⟨name, hname, rfl | heq⟩
    · exact absurd (List.mem_of_getLast? hlast) hname.newline_not_mem
    · rwa [(String.append_left_inj "\n").mp heq]
  · rw [isSchemaName_of_getLast? hlast]
    refine ⟨fun h => ⟨s, h, .inl rfl⟩, ?_⟩
    rintro ⟨name, hname, rfl | rfl⟩
    · exact hname
    · exact absurd (by rw [String.toList_append]; exact List.getLast?_concat) hlast

/-! ## Settings -/

theorem valueOf?_append (env : List (String × String)) (key value name : String) :
    valueOf? (env ++ [(key, value)]) name =
      if Text.lowerAscii key = name then some value else valueOf? env name := by
  unfold valueOf?
  split <;> simp [*]

namespace Settings

/-- The search path that the server is given for each connection, if any. -/
def searchPath (settings : Settings) : Option String :=
  (serverSettings settings.databaseSchema settings.statementTimeoutMs).lookup "search_path"

theorem searchPath_of_schema {settings : Settings} {s : String}
    (h : settings.databaseSchema = some s) : settings.searchPath = some (s ++ ",public") := by
  unfold searchPath
  rw [h]
  rfl

/-- The schema of an environment, or the fault in it. -/
def schemaOf (env : List (String × String)) : Checked (Option String) :=
  match valueOf? env "database_schema" with
  | none => .value none
  | some s => .field ["database_schema"] ((readSchema s).map some)

/-- Where only the schema differs from that of an environment without faults, the settings differ in
it alone, and there are no faults but in it. -/
theorem ofEnvironment_eq {env env' : List (String × String)} {settings : Settings}
    (h : ofEnvironment env = .value settings)
    (hother : ∀ name, name ≠ "database_schema" → valueOf? env' name = valueOf? env name) :
    ofEnvironment env' =
      (schemaOf env').map fun schema => { settings with databaseSchema := schema } := by
  -- What each variable gave, from the last one to the first; that of the schema does not matter.
  simp only [ofEnvironment, Checked.seq_eq_value_iff, Checked.map_seq_eq_value_iff] at h
  obtain ⟨_, hheaders, _, hrate, _, hpath, _, hregex, _, horigins, _, hdir, _, hlevel, _, httl,
    _, hentries, _, hyears, _, hquery, _, hconcurrency, _, htimeout, _, hpool, _, -, hall⟩ := h
  obtain ⟨_, hmk, rfl⟩ := Checked.map_eq_value_iff.mp hall
  obtain ⟨_, hurl, rfl⟩ := Checked.map_eq_value_iff.mp hmk
  simp only [ofEnvironment, ne_eq, hother, String.reduceEq, not_false_eq_true, hheaders, hrate,
    hpath, hregex, horigins, hdir, hlevel, httl, hentries, hyears, hquery, hconcurrency, htimeout,
    hpool, hurl]
  unfold schemaOf
  cases valueOf? env' "database_schema" with
  | none => rfl
  | some s =>
    dsimp only
    cases readSchema s <;> rfl

theorem schemaOf_of_value {env : List (String × String)} {s : String}
    (h : valueOf? env "database_schema" = some s) :
    schemaOf env = if isSchemaName s then .value (some s)
      else .faults [⟨["database_schema"], .refused badSchemaMessage⟩] := by
  unfold schemaOf readSchema
  rw [h]
  dsimp only
  split <;> rfl

theorem schemaOf_eq_some {env : List (String × String)} {s : String}
    (h : schemaOf env = .value (some s)) : IsSchemaLine s := by
  cases hvalue : valueOf? env "database_schema" with
  | none => simp [schemaOf, hvalue] at h
  | some t =>
    rw [schemaOf_of_value hvalue] at h
    split at h
    · next htaken =>
      obtain rfl : t = s := by simpa using h
      exact isSchemaName_iff.mp htaken
    · cases h

/-- The schema of an environment without faults. -/
theorem schemaOf_of_ofEnvironment {env : List (String × String)} {settings : Settings}
    (h : ofEnvironment env = .value settings) : schemaOf env = .value settings.databaseSchema := by
  have hmap := (ofEnvironment_eq h fun _ _ => rfl).symm.trans h
  obtain ⟨schema, hschema, hsettings⟩ := Checked.map_eq_value_iff.mp hmap
  rw [hschema, ← hsettings]

/-- An environment without faults to which a schema is added. -/
theorem ofEnvironment_append {env : List (String × String)} {settings : Settings} {key : String}
    (h : ofEnvironment env = .value settings) (hkey : Text.lowerAscii key = "database_schema")
    (s : String) :
    ofEnvironment (env ++ [(key, s)]) =
      if isSchemaName s then .value { settings with databaseSchema := some s }
      else .faults [⟨["database_schema"], .refused badSchemaMessage⟩] := by
  have hother (name : String) (hname : name ≠ "database_schema") :
      valueOf? (env ++ [(key, s)]) name = valueOf? env name := by
    have hne : Text.lowerAscii key ≠ name := hkey ▸ hname.symm
    rw [valueOf?_append, if_neg hne]
  have hvalue : valueOf? (env ++ [(key, s)]) "database_schema" = some s := by
    rw [valueOf?_append, if_pos hkey]
  rw [ofEnvironment_eq h hother, schemaOf_of_value hvalue]
  split <;> rfl

/-- A text is taken as schema exactly if it is a schema name with a line end behind it or none, and
all that is wrong otherwise is the schema. The search path of a connection is the text that is
taken, a comma and the public schema. -/
theorem schema_accepted_iff {env : List (String × String)} {settings : Settings}
    (h : ofEnvironment env = .value settings) :
    (∀ s ∈ settings.databaseSchema, ∃ name, IsSchemaName name ∧
      (s = name ∧ settings.searchPath = some (name ++ ",public") ∨
        s = name ++ "\n" ∧ settings.searchPath = some (name ++ "\n,public"))) ∧
    ∀ key s, Text.lowerAscii key = "database_schema" →
      (ofEnvironment (env ++ [(key, s)]) = .value { settings with databaseSchema := some s } ↔
        IsSchemaLine s) ∧
      (ofEnvironment (env ++ [(key, s)]) =
        .faults [⟨["database_schema"], .refused badSchemaMessage⟩] ↔ ¬IsSchemaLine s) := by
  constructor
  · intro s hs
    have hschema : schemaOf env = .value (some s) := by
      rw [schemaOf_of_ofEnvironment h, Option.mem_def.mp hs]
    have hpath := searchPath_of_schema (Option.mem_def.mp hs)
    obtain ⟨name, hname, rfl | rfl⟩ := schemaOf_eq_some hschema
    · exact ⟨s, hname, .inl ⟨rfl, hpath⟩⟩
    · rw [String.append_assoc] at hpath
      exact ⟨name, hname, .inr ⟨rfl, hpath⟩⟩
  · intro key s hkey
    rw [ofEnvironment_append h hkey, ← isSchemaName_iff]
    split <;> simp [*]

/-- The schema of a preview, and one with a blank in its name. -/
theorem schema_accepted_iff_preview :
    ofEnvironment [("DATABASE_URL", "postgresql+asyncpg://u:p@h/db"),
      ("Database_Schema", "pr_42")] =
      .value { ofUrl "postgresql+asyncpg://u:p@h/db" with databaseSchema := some "pr_42" } ∧
    ofEnvironment [("DATABASE_URL", "postgresql+asyncpg://u:p@h/db"),
      ("Database_Schema", "pr 42")] =
      .faults [⟨["database_schema"], .refused badSchemaMessage⟩] := by
  have h := (schema_accepted_iff (ofEnvironment_url "postgresql+asyncpg://u:p@h/db")).2
  have hkey : Text.lowerAscii "Database_Schema" = "database_schema" := by decide +kernel
  exact ⟨(h _ "pr_42" hkey).1.mpr (isSchemaName_iff.mp (by decide +kernel)),
    (h _ "pr 42" hkey).2.mpr fun hline =>
      absurd (isSchemaName_iff.mpr hline) (by decide +kernel)⟩

/-- With a line end behind it a name is taken, though it is no schema name, and the line end goes
into the search path. -/
theorem not_schemaName_lineEnd :
    ∃ settings, ofEnvironment [("DATABASE_URL", "postgresql+asyncpg://u:p@h/db"),
        ("DATABASE_SCHEMA", "pr_42\n")] = .value settings ∧
      settings.databaseSchema = some "pr_42\n" ∧ ¬IsSchemaName "pr_42\n" ∧
      settings.searchPath = some "pr_42\n,public" := by
  refine ⟨{ ofUrl "postgresql+asyncpg://u:p@h/db" with databaseSchema := some "pr_42\n" },
    ?_, rfl, fun h => h.newline_not_mem (by decide), rfl⟩
  have htaken : isSchemaName "pr_42\n" = true := by decide +kernel
  exact (ofEnvironment_append (ofEnvironment_url _) (by decide +kernel) _).trans (if_pos htaken)

end Settings

end Electorate
