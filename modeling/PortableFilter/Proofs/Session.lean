import Mathlib.Logic.Function.Iterate
import PortableFilter.Session

/-! # What a session prints

A session is a row of independent answers. The lines before a filter matter to it in two ways only:
the last of them that chooses a dialect, and how many of them switch the trees on or off
(`Session.after`). So everything that a session prints can be told line by line, without running it
(`Session.execute_lines`). -/

namespace PortableFilter

namespace Line

/-- What is left of a line as it was typed. -/
def content (line : List Char) : List Char := Text.trim (Text.obeyBackspaces line)

/-- The words of the command that a line is, if it is one. -/
def words? (line : List Char) : Option (List String) :=
  if (content line).head? = some ':' then
    some ((Text.words (content line).tail).map String.ofList)
  else none

end Line

namespace Command

/-- Whether a command ends the session. -/
def quits (words : List String) : Bool := words.head?.any ["quit", "q", "exit"].contains

/-- Whether a command switches the trees on or off. -/
def togglesTree (words : List String) : Bool := words.head? = some "ast"

/-- What a command chooses to render, if it does: a dialect, or none for all of them. -/
def choice? (words : List String) : Option (Option Dialect) :=
  if words.head? = some "dialect" then
    match words.tail.head? with
    | none => some none
    | some name => if name = "all" then some none else (Dialect.ofName? name).map some
  else none

end Command

namespace Line

def quits (line : List Char) : Bool := (words? line).any Command.quits

def togglesTree (line : List Char) : Bool := (words? line).any Command.togglesTree

def choice? (line : List Char) : Option (Option Dialect) := (words? line).bind Command.choice?

/-- Lines that ask for no change: empty lines and filters, commands that do not exist, and choices
of a dialect that does not exist. -/
inductive Idle (line : List Char) : Prop where
  | noCommand (isText : words? line = none)
  | unknownCommand {word : String} {more : List String}
      (isCommand : words? line = some (word :: more))
      (unknown : word ∉ ["help", "quit", "q", "exit", "ast", "dialect"])
  | unknownDialect {name : String} {more : List String}
      (isCommand : words? line = some ("dialect" :: name :: more)) (notAll : name ≠ "all")
      (unknown : Dialect.ofName? name = none)

/-- The lines that a session takes: those before the first that ends it. -/
def live (lines : List (List Char)) : List (List Char) := lines.takeWhile fun line => !quits line

namespace Idle

variable {line : List Char}

/-- An idle line does not quit. -/
theorem quits_eq_false (idle : Idle line) : quits line = false := by
  cases idle <;> simp_all [quits, Command.quits]

theorem togglesTree_eq_false (idle : Idle line) : togglesTree line = false := by
  cases idle <;> simp_all [togglesTree, Command.togglesTree]

theorem choice?_eq_none (idle : Idle line) : choice? line = none := by
  cases idle <;> simp_all [choice?, Command.choice?]

end Idle

end Line

namespace Session

/-- The session behind some lines: the settings are the same, the dialect is the last one that was
chosen, and the switch for trees was turned once by each line that turns it. -/
def after (session : Session) (lines : List (List Char)) : Session where
  settings := session.settings
  dialect := (lines.filterMap Line.choice?).getLast?.getD session.dialect
  showTree := not^[lines.countP Line.togglesTree] session.showTree

/-- What a session prints for a line: nothing for an empty one, the answer to a filter, or what a
command has to say. -/
def reply (session : Session) (line : List Char) : List Printed :=
  match Line.words? line with
  | some words => (session.command words).2
  | none =>
    if Line.content line = [] then [] else session.answer (String.ofList (Line.content line))

/-- A session goes through its lines one part after the other. -/
theorem after_append (session : Session) (before later : List (List Char)) :
    session.after (before ++ later) = (session.after before).after later := by
  simp only [after, List.filterMap_append, List.getLast?_append, Option.getD_or,
    List.countP_append, Nat.add_comm (before.countP _), Function.iterate_add_apply]

theorem after_nil (session : Session) : session.after [] = session := rfl

/-- A session goes through its lines one by one. -/
theorem after_cons (session : Session) (line : List Char) (lines : List (List Char)) :
    session.after (line :: lines) = (session.after [line]).after lines :=
  session.after_append [line] lines

/-- One line may change the dialect and whether the tree is shown, and nothing else. -/
theorem after_singleton (session : Session) (line : List Char) :
    session.after [line] = { session with
      dialect := (Line.choice? line).getD session.dialect
      showTree := session.showTree ^^ Line.togglesTree line } := by
  have dialect : [line].filterMap Line.choice? = (Line.choice? line).toList := by
    cases chosen : Line.choice? line <;> simp [chosen]
  have showTree : not^[[line].countP Line.togglesTree] session.showTree =
      (session.showTree ^^ Line.togglesTree line) := by
    cases toggles : Line.togglesTree line <;> simp [toggles]
  rw [after, dialect, showTree]
  cases Line.choice? line <;> rfl

/-- A command ends the session, or it does to the session what it says and nothing else. -/
theorem command_eq (session : Session) (words : List String) :
    session.command words = if Command.quits words then (none, []) else
      (some { session with
          dialect := (Command.choice? words).getD session.dialect
          showTree := session.showTree ^^ Command.togglesTree words },
        (session.command words).2) := by
  fun_cases command session words with
  | case1 | case2 | case3 | case4 | case5 | case6 | case7 | case10 =>
    simp [Command.quits, Command.choice?, Command.togglesTree]
  | case8 name _ named _ known | case9 name _ named known =>
    simp [Command.quits, Command.choice?, Command.togglesTree, named, known]
  | case11 word more _ quit q exit ast choosing choosingAll =>
    -- a word of its own is none of those that do something
    have dialect : word ≠ "dialect" := by
      intro same
      cases more with
      | nil => exact choosingAll same rfl
      | cons name more => exact choosing name more same rfl
    simp_all [Command.quits, Command.choice?, Command.togglesTree]

/-- What a line does to a session: it ends it, or it is answered and counts from there on. -/
theorem step_eq (session : Session) (line : List Char) :
    session.step line = if Line.quits line then (none, []) else
      (some (session.after [line]), session.reply line) := by
  have readAs : session.step line = match Line.words? line with
      | some words => session.command words
      | none => (some session, session.reply line) := by
    unfold step reply Line.words? Line.content
    generalize Text.trim (Text.obeyBackspaces line) = text
    split
    · rfl
    · rfl
    · rename_i full noCommand
      have noColon : text.head? ≠ some ':' := by
        intro isColon
        obtain ⟨rest, rfl⟩ := List.head?_eq_some_iff.mp isColon
        exact noCommand rest rfl
      rw [if_neg noColon, if_neg full]
  rw [readAs, after_singleton, reply, Line.quits, Line.togglesTree, Line.choice?]
  cases Line.words? line with
  | none => simp
  | some words => exact session.command_eq words

/-- A run replies to one line after the other, until one quits. -/
theorem run_cons (session : Session) (line : List Char) (lines : List (List Char)) :
    session.run (line :: lines) = if Line.quits line then [] else
      session.reply line ++ (session.after [line]).run lines := by
  rw [run, step_eq]
  by_cases quits : Line.quits line
  · rw [if_pos quits, if_pos quits]
  · rw [if_neg quits, if_neg quits]

/-- A run replies to each line before the first that quits, in the state that the lines before it
leave. -/
theorem run_eq (session : Session) (lines : List (List Char)) :
    session.run lines = ((Line.live lines).mapIdx fun count line =>
      (session.after (lines.take count)).reply line).flatten := by
  induction lines generalizing session with
  | nil => rfl
  | cons line lines ih =>
    rw [run_cons, Line.live, List.takeWhile_cons]
    by_cases quits : Line.quits line
    · rw [if_pos quits, quits]
      rfl
    · -- the lines before a later one are this line and the lines between them
      have later : ∀ count, session.after ((line :: lines).take (count + 1)) =
          (session.after [line]).after (lines.take count) := by
        intro count
        rw [List.take_succ_cons, after_cons]
      have lives : (!Line.quits line) = true := by rw [eq_false_of_ne_true quits, Bool.not_false]
      rw [if_neg quits, if_pos lives, ih, List.mapIdx_cons, List.flatten_cons, List.take_zero,
        after_nil]
      simp only [later, Line.live]

/-- Whatever stands behind the end of a session is not looked at. -/
theorem run_append_quit {quit : List Char} (quits : Line.quits quit) (session : Session)
    (lines later : List (List Char)) :
    session.run (lines ++ quit :: later) = session.run lines := by
  induction lines generalizing session with
  | nil => rw [List.nil_append, run_cons, if_pos quits, run]
  | cons line lines ih => rw [List.cons_append, run_cons, run_cons, ih]

/-- An idle line leaves the session as it is. -/
theorem after_idle {line : List Char} (idle : Line.Idle line) (session : Session) :
    session.after [line] = session := by
  rw [after_singleton, idle.choice?_eq_none, idle.togglesTree_eq_false, Bool.xor_false,
    Option.getD_none]

/-- A session is told line by line. Up to the first line that ends it, each line is answered by the
session that the lines before it leave, whatever else they were about; the lines behind it have no
effect, and the session ends well. Filters, empty lines and commands that are not understood leave
the session as it is. -/
theorem execute_lines (session : Session) (lines : List (List Char)) :
    session.execute none lines =
      (banner :: ((Line.live lines).mapIdx fun count line =>
        (session.after (lines.take count)).reply line).flatten, 0) ∧
    (∀ quit later, Line.quits quit →
      session.execute none (lines ++ quit :: later) = session.execute none lines) ∧
    ∀ line, Line.Idle line → session.step line = (some session, session.reply line) := by
  refine ⟨?_, fun quit later quits => ?_, fun line idle => ?_⟩
  · rw [execute, run_eq]
  · rw [execute, execute, run_append_quit quits]
  · rw [step_eq, idle.quits_eq_false, after_idle idle, if_neg Bool.false_ne_true]

/-- A choice of dialect lasts through a filter that is not understood and a choice that is not, and
nothing is rendered behind the end of a session. -/
theorem execute_lines_rejected : Line.Idle "a ==".toList ∧ Line.quits " :q now".toList ∧
    ∀ session : Session,
      session.after [":dialect sql".toList, "a ==".toList, ":dialect none".toList, ":ast".toList] =
        ⟨session.settings, some .sql, !session.showTree⟩ ∧
      session.step "a ==".toList = (some session, session.answer "a ==") ∧
      session.execute none ["a ==".toList, " :q now".toList, "b == 1".toList] =
        session.execute none ["a ==".toList] := by
  have idle : Line.Idle "a ==".toList := .noCommand rfl
  have quits : Line.quits " :q now".toList := rfl
  refine ⟨idle, quits, fun session => ⟨rfl, ?_, ?_⟩⟩
  · exact (session.execute_lines []).2.2 _ idle
  · exact (session.execute_lines ["a ==".toList]).2.1 _ ["b == 1".toList] quits

end Session

end PortableFilter
