import WritePath.Proofs.Toml.Lines
import WritePath.Settings

/-!
# Settings files that leave something out

A settings file may set any of the settings, in any order, each on a line of its own, and
among them may be lines with keys that name no setting.  What comes out are the default
settings with the chosen ones in their places, if they pass the check, and otherwise what
the check has to say about them (`partial_settings`).

A file defines keyed values, and every line puts one of them in; so it is enough to see
what one value does to the settings that are read from the others
(`ofFields_insert_choice`, `ofFields_insert_unknown`).
-/

namespace WritePath.Settings

open Toml (BareKey Lines)

/-! ## Choices -/

/-- The settings that are numbers. -/
inductive Count where
  | writerBufferSize
  | writerThreads
  | queueSize
  | commitInterval
  | refreshInterval

def Count.key : Count → String
  | writerBufferSize => "writer_buffer_size"
  | writerThreads => "writer_threads"
  | queueSize => "queue_size"
  | commitInterval => "commit_interval_ms"
  | refreshInterval => "refresh_interval_ms"

def Count.set (s : Settings) (n : UInt64) : Count → Settings
  | writerBufferSize => { s with writerBufferSize := n }
  | writerThreads => { s with writerThreads := n }
  | queueSize => { s with queueSize := n }
  | commitInterval => { s with commitInterval := n }
  | refreshInterval => { s with refreshInterval := n }

/-- A setting with a value of its type. -/
inductive Choice where
  | name (s : String)
  | indexPath (s : String)
  | count (c : Count) (n : UInt64)

namespace Choice

def entry : Choice → String × Toml.Value
  | name s => ("name", .text s)
  | indexPath s => ("index_path", .text s)
  | count c n => (c.key, .integer n.toNat)

def applyTo (s : Settings) : Choice → Settings
  | name text => { s with name := text }
  | indexPath text => { s with indexPath := some text }
  | count c n => c.set s n

end Choice

def chosen (choices : List Choice) : Settings :=
  choices.foldl Choice.applyTo {}

def checked (s : Settings) : Except Flaw Settings :=
  match s.check with
  | .ok () => .ok s
  | .error flaw => .error flaw

theorem checked_of_ok {s : Settings} (passed : s.check.toOption = some ()) : checked s = .ok s := by
  rw [checked]
  cases check : s.check with
  | ok => rfl
  | error flaw =>
    rw [check] at passed
    cases passed

def settingKeys : List String :=
  ["name", "index_path", "writer_buffer_size", "writer_threads", "queue_size", "commit_interval_ms",
    "refresh_interval_ms"]

/-! ## One value more -/

section

variable {α : Type} {source : Source α} {fields : Keyed α} {s : Settings}

theorem ofFields_eq_some_iff :
    ofFields source fields = some s ↔
      orDefault source.text? "default" (Keyed.get? "name" fields) = some s.name
        ∧ orDefault source.path? none (Keyed.get? "index_path" fields) = some s.indexPath
        ∧ orDefault source.word? 50000000 (Keyed.get? "writer_buffer_size" fields)
          = some s.writerBufferSize
        ∧ orDefault source.word? 1 (Keyed.get? "writer_threads" fields) = some s.writerThreads
        ∧ orDefault source.word? 1000 (Keyed.get? "queue_size" fields) = some s.queueSize
        ∧ orDefault source.word? 0 (Keyed.get? "commit_interval_ms" fields) = some s.commitInterval
        ∧ orDefault source.word? 0 (Keyed.get? "refresh_interval_ms" fields)
          = some s.refreshInterval := by
  simp only [ofFields, ofParts, Option.bind_eq_bind, Option.bind_eq_some_iff, Option.pure_def,
    Option.some.injEq]
  constructor
  · rintro ⟨_, name, _, path, _, buffer, _, threads, _, queue, _, commit, _, refresh, rfl⟩
    exact ⟨name, path, buffer, threads, queue, commit, refresh⟩
  · rintro ⟨name, path, buffer, threads, queue, commit, refresh⟩
    exact ⟨_, name, _, path, _, buffer, _, threads, _, queue, _, commit, _, refresh, rfl⟩

end

theorem word?_toNat (n : UInt64) : word? n.toNat = some n := by
  have small : (n.toNat : Int) < UInt64.size := Int.ofNat_lt.mpr n.toNat_lt
  rw [word?, decide_eq_true (Int.natCast_nonneg _), decide_eq_true small]
  simp only [Bool.and_self, if_true, Int.toNat_natCast, UInt64.ofNat_toNat]

theorem word?_integer (i : Int) : tomlSource.word? (.integer i) = word? i := rfl

theorem orDefault_count (default n : UInt64) :
    orDefault tomlSource.word? default (some (.integer n.toNat)) = some n := by
  -- by rewriting: comparing with the size of a word is too much to compute
  rw [orDefault, word?_integer, word?_toNat]

theorem orDefault_name (default text : String) :
    orDefault tomlSource.text? default (some (.text text)) = some text := rfl

theorem orDefault_path (default : Option String) (text : String) :
    orDefault tomlSource.path? default (some (.text text)) = some (some text) := rfl

variable {entries : Toml.Entries} {s : Settings}

/-- A setting replaces its default and nothing else. -/
theorem ofFields_insert_choice (read : ofFields tomlSource entries = some s) (choice : Choice) :
    ofFields tomlSource (Keyed.insert choice.entry.1 choice.entry.2 entries)
      = some (choice.applyTo s) := by
  rw [ofFields_eq_some_iff] at read ⊢
  cases choice with
  | name | indexPath =>
    simp [Choice.entry, Choice.applyTo, Keyed.get?_insert_of_ne, orDefault_name, orDefault_path,
      read]
  | count c n =>
    cases c with
    | writerBufferSize | writerThreads | queueSize | commitInterval | refreshInterval =>
      simp [Choice.entry, Choice.applyTo, Count.key, Count.set, Keyed.get?_insert_of_ne,
        orDefault_count, read]

/-- Another key changes nothing. -/
theorem ofFields_insert_unknown {key : String} (unknown : key ∉ settingKeys) (v : Toml.Value) :
    ofFields tomlSource (Keyed.insert key v entries) = ofFields tomlSource entries := by
  have other : ∀ known ∈ settingKeys,
      Keyed.get? known (Keyed.insert key v entries) = Keyed.get? known entries := by
    intro known mem
    refine Keyed.get?_insert_of_ne ?_ v entries
    rintro rfl
    exact unknown mem
  simp only [settingKeys, List.forall_mem_cons] at other
  simp only [ofFields, other]

/-! ## Lines -/

inductive Line where
  | setting (choice : Choice)
  /-- A key that names no setting. -/
  | unknown (key : String) (v : Toml.Value)

namespace Line

def entry : Line → String × Toml.Value
  | setting choice => choice.entry
  | unknown key v => (key, v)

def choice? : Line → Option Choice
  | setting choice => some choice
  | unknown _ _ => none

/-- A key that names no setting needs no quotes, and a whole number under it can be
read. -/
def Proper : Line → Prop
  | setting _ => True
  | unknown key v => key ∉ settingKeys ∧ BareKey key ∧ v.Sized

end Line

theorem bareKey_of_mem : ∀ key ∈ settingKeys, BareKey key := by
  decide

theorem plain_choice (choice : Choice) : Toml.Plain choice.entry := by
  cases choice with
  | name | indexPath => exact ⟨bareKey_of_mem _ (by simp [Choice.entry, settingKeys]), trivial⟩
  | count c n =>
    have small : (n.toNat : Int) < UInt64.size := Int.ofNat_lt.mpr n.toNat_lt
    have size : (UInt64.size : Int) ≤ 340282366920938463463374607431768211456 := by decide
    have known : c.key ∈ settingKeys := by cases c <;> decide
    refine ⟨bareKey_of_mem _ known, ?_, ?_⟩
    · exact Int.le_trans (by decide) (Int.natCast_nonneg n.toNat)
    · exact Int.lt_of_lt_of_le small size

theorem Line.Proper.plain {line : Line} (proper : line.Proper) : Toml.Plain line.entry := by
  cases line with
  | setting choice => exact plain_choice choice
  | unknown => exact proper.2

/-- The values of the lines are the settings that were chosen. -/
theorem ofFields_lines {lines : List Line} (proper : ∀ line ∈ lines, line.Proper)
    (read : ofFields tomlSource entries = some s) :
    ofFields tomlSource
        ((lines.map Line.entry).foldl (fun l p => Keyed.insert p.1 p.2 l) entries)
      = some ((lines.filterMap Line.choice?).foldl Choice.applyTo s) := by
  induction lines generalizing entries s with
  | nil => exact read
  | cons line lines ih =>
    obtain ⟨first, others⟩ := List.forall_mem_cons.mp proper
    cases line with
    | setting choice => exact ih others (ofFields_insert_choice read choice)
    | unknown key v =>
      exact ih others ((ofFields_insert_unknown first.1 v).trans read)

theorem ofText_lines {lines : List Line} {text : String} (proper : ∀ line ∈ lines, line.Proper)
    (nodup : (lines.map fun line => line.entry.1).Nodup)
    (written : Lines (lines.map Line.entry) text.toList) :
    ofText text = checked (chosen (lines.filterMap Line.choice?)) := by
  have plain : ∀ entry ∈ lines.map Line.entry, Toml.Plain entry := by
    intro entry mem
    obtain ⟨line, hline, rfl⟩ := List.mem_map.mp mem
    exact (proper line hline).plain
  have entries := Toml.read?_lines written plain (by rwa [List.map_map])
  have fields := ofFields_lines proper (rfl : ofFields tomlSource [] = some {})
  rw [ofText, entries, Option.bind_some, Keyed.ofList, fields]
  change (check (chosen _)).map (fun _ => chosen _) = _
  rw [checked]
  cases check (chosen (lines.filterMap Line.choice?)) <;> rfl

/-! ## Partial files -/

theorem exists_lines_choices (choices : List Choice) :
    ∃ text : String, Lines (choices.map Choice.entry) text.toList := by
  have literal : ∀ entry ∈ choices.map Choice.entry, ∃ cs, Toml.Literal entry.2 cs := by
    intro entry mem
    obtain ⟨choice, -, rfl⟩ := List.mem_map.mp mem
    cases choice with
    | name text | indexPath text => exact ⟨_, .text (Toml.inside_spelled text.toList)⟩
    | count c n => exact ⟨_, .integer n.toNat⟩
  obtain ⟨cs, lines⟩ := Toml.exists_lines literal
  exact ⟨String.ofList cs, String.toList_ofList.symm ▸ lines⟩

theorem sublist_choices (lines : List Line) :
    ((lines.filterMap Line.choice?).map fun choice => choice.entry.1).Sublist
      (lines.map fun line => line.entry.1) := by
  induction lines with
  | nil => exact .slnil
  | cons line lines ih =>
    cases line with
    | setting choice => exact ih.cons_cons _
    | unknown key v => exact ih.cons _

theorem ofText_choices {choices : List Choice} {text : String}
    (nodup : (choices.map fun choice => choice.entry.1).Nodup)
    (written : Lines (choices.map Choice.entry) text.toList) :
    ofText text = checked (chosen choices) := by
  have proper : ∀ line ∈ choices.map Line.setting, line.Proper := by
    intro line mem
    obtain ⟨choice, -, rfl⟩ := List.mem_map.mp mem
    trivial
  have alone : (choices.map Line.setting).filterMap Line.choice? = choices := by
    rw [List.filterMap_map]
    exact List.filterMap_some
  have read : ofText text = _ :=
    ofText_lines proper (by rwa [List.map_map]) (by rwa [List.map_map])
  rwa [alone] at read

/-- **Partial settings files.**  Any choice of settings can be written, one on a line.  In
a file of plain lines with different keys, of which some are settings with a value of
their type and others name no setting, the chosen settings replace their defaults; the
file is read as these settings if they pass the check, and else refused with what the
check says.  The lines that name no setting change nothing. -/
theorem partial_settings :
    (∀ choices : List Choice, ∃ text : String, Lines (choices.map Choice.entry) text.toList)
      ∧ ∀ (lines : List Line) (text : String), (∀ line ∈ lines, line.Proper) →
          (lines.map fun line => line.entry.1).Nodup → Lines (lines.map Line.entry) text.toList →
            ofText text = checked (chosen (lines.filterMap Line.choice?))
            ∧ ∀ text' : String,
                Lines ((lines.filterMap Line.choice?).map Choice.entry) text'.toList →
                  ofText text' = ofText text := by
  refine ⟨exists_lines_choices, fun lines text proper nodup written => ?_⟩
  have read := ofText_lines proper nodup written
  refine ⟨read, fun text' written' => ?_⟩
  rw [read, ofText_choices (List.Nodup.sublist (sublist_choices lines) nodup) written']

/-- A name with a letter that is escaped by its number, a line that names no setting, and
a number. -/
theorem partial_settings_of_three_lines :
    let lines : List Line := [.setting (.name "bé\n"), .unknown "x-1" (.integer (-3)),
      .setting (.count .queueSize 5)]
    let text := "name = \"b\\u00E9\\n\"\nx-1 = -3\nqueue_size = 5"
    let short := "name = \"b\\u00E9\\n\"\nqueue_size = 5"
    ((∀ line ∈ lines, line.Proper) ∧ (lines.map fun line => line.entry.1).Nodup
        ∧ Lines (lines.map Line.entry) text.toList)
      ∧ ofText text = .ok { name := "bé\n", queueSize := 5 }
      ∧ ofText short = ofText text := by
  intro lines text short
  have proper : ∀ line ∈ lines, line.Proper := by
    have bare : BareKey "x-1" := by decide
    have sized : (Toml.Value.integer (-3)).Sized := ⟨by decide, by decide⟩
    simp only [lines, List.forall_mem_cons]
    exact ⟨trivial, ⟨by decide, bare, sized⟩, trivial, nofun⟩
  have nodup : (lines.map fun line => line.entry.1).Nodup := by decide
  have number : Toml.Spelling 'é' ['\\', 'u', '0', '0', 'E', '9'] := by
    let digits := [(0, '0'), (0, '0'), (14, 'E'), (9, '9')]
    have all : ∀ d ∈ digits, Toml.HexDigit d := by decide
    exact .number (show ('u', digits.length) ∈ Toml.numberEscapes by decide) all (by decide)
  have inside : Toml.Inside "bé\n".toList
      (['b'] ++ (['\\', 'u', '0', '0', 'E', '9'] ++ ['\\', 'n'])) := by
    have chars : "bé\n".toList = ['b', 'é', '\n'] := by decide +kernel
    rw [chars]
    exact .cons (.plain (by decide) (by decide) (by decide))
      (.cons number (.cons (.short (by decide)) .nil))
  have name := Toml.Literal.text inside
  have size := Toml.Literal.integer 5
  let nameLine := "name".toList ++ " = \"b\\u00E9\\n\"".toList
  let sizeLine := "queue_size".toList ++ ' ' :: '=' :: ' ' :: Json.intText 5
  have written : Lines (lines.map Line.entry) text.toList := by
    have spelled : text.toList = nameLine ++ '\n' ::
        ("x-1".toList ++ ' ' :: '=' :: ' ' :: (Json.intText (-3) ++ '\n' :: sizeLine)) := by
      decide +kernel
    rw [spelled]
    exact .cons name (.cons (.integer (-3)) (.last size))
  have written' : Lines ((lines.filterMap Line.choice?).map Choice.entry) short.toList := by
    have spelled : short.toList = nameLine ++ '\n' :: sizeLine := by decide +kernel
    rw [spelled]
    exact .cons name (.last size)
  obtain ⟨read, same⟩ := partial_settings.2 lines text proper nodup written
  have passed : checked (chosen (lines.filterMap Line.choice?))
      = .ok { name := "bé\n", queueSize := 5 } := checked_of_ok (by decide +kernel)
  exact ⟨⟨proper, nodup, written⟩, read.trans passed, same _ written'⟩

/-- A whole number that needs more than 128 bits makes a file unreadable, although it stands
under a key that names no setting. -/
theorem great_number_unreadable :
    let line := Line.unknown "x" (.integer 340282366920938463463374607431768211456)
    let text := "x = 340282366920938463463374607431768211456"
    (line.entry.1 ∉ settingKeys ∧ BareKey line.entry.1 ∧ Lines [line.entry] text.toList)
      ∧ checked (chosen ([line].filterMap Line.choice?)) = .ok {}
      ∧ ofText text = .error .unreadable := by
  intro line text
  have bare : BareKey "x" := by decide
  have written : Lines [line.entry] text.toList := by
    have spelled : text.toList
        = "x".toList ++ ' ' :: '=' :: ' ' :: Json.intText 340282366920938463463374607431768211456 := by
      decide +kernel
    rw [spelled]
    exact .last (.integer _)
  have unreadable : ofText text = .error .unreadable := by
    have none : (Toml.Entries.read? text).isNone = true := by decide +kernel
    rw [ofText, Option.isNone_iff_eq_none.mp none]
    rfl
  exact ⟨⟨by decide, bare, written⟩, checked_of_ok (by decide +kernel), unreadable⟩

end WritePath.Settings
