/-!
The words that name the built-in commands.  There are two tables: the words that scanning takes for
keywords (`keywords`), and the commands that the name of a statement is looked up among
(`Keyword.table`).

Main statements: a word is read as a command iff it is that command's name
(`Keyword.ofName?_eq_some_iff`), and the two tables have the same names (`mem_keywords_iff`).
-/

namespace LineScript

/-- The words that scanning takes for keywords. -/
def keywords : List String :=
  ["LOAD", "STORE", "PRINT", "ADD", "SUBTRACT", "MULTIPLY", "DIVIDE", "JOIN", "INPUT", "TOSTRING",
    "TONUMBER", "RANDOM", "CLEAR", "CEILING", "FLOOR", "ABS", "SQRT", "EXECCMD", "RUN", "WAIT",
    "CALL", "MEMORY", "IMPORT"]

/-- A built-in command. -/
inductive Keyword
  | load | store | print
  | add | subtract | multiply | divide
  | join | input | textOf | numberOf | random | clear
  | ceiling | floor | abs | sqrt
  | execCommand | run | wait | call | memory | importUnit
deriving DecidableEq, Repr

namespace Keyword

def name : Keyword → String
  | load => "LOAD"
  | store => "STORE"
  | print => "PRINT"
  | add => "ADD"
  | subtract => "SUBTRACT"
  | multiply => "MULTIPLY"
  | divide => "DIVIDE"
  | join => "JOIN"
  | input => "INPUT"
  | textOf => "TOSTRING"
  | numberOf => "TONUMBER"
  | random => "RANDOM"
  | clear => "CLEAR"
  | ceiling => "CEILING"
  | floor => "FLOOR"
  | abs => "ABS"
  | sqrt => "SQRT"
  | execCommand => "EXECCMD"
  | run => "RUN"
  | wait => "WAIT"
  | call => "CALL"
  | memory => "MEMORY"
  | importUnit => "IMPORT"

/-- The commands in the order in which the name of a statement is compared with theirs. -/
def table : List Keyword :=
  [load, store, call, add, subtract, multiply, divide, sqrt, abs, floor, ceiling, join, textOf,
    numberOf, random, print, input, wait, clear, memory, run, execCommand, importUnit]

/-- The command with this name. -/
def ofName? (word : String) : Option Keyword :=
  table.find? (·.name == word)

/-- The commands in the order of the keywords. -/
def all : List Keyword :=
  keywords.filterMap ofName?

theorem ofName?_name (k : Keyword) : ofName? k.name = some k := by
  cases k <;> decide

theorem ofName?_eq_some_iff {word : String} {k : Keyword} :
    ofName? word = some k ↔ k.name = word := by
  constructor
  · intro h
    simpa using List.find?_some h
  · rintro rfl
    exact ofName?_name k

theorem name_injective {k l : Keyword} (h : k.name = l.name) : k = l := by
  have := ofName?_name k
  rw [h, ofName?_name] at this
  exact (Option.some.inj this).symm

theorem mem_all (k : Keyword) : k ∈ all := by
  cases k <;> decide

/-- Every keyword is the name of a command. -/
theorem map_name_all : all.map name = keywords := by
  decide

end Keyword

theorem mem_keywords_iff {word : String} : word ∈ keywords ↔ ∃ k : Keyword, k.name = word := by
  rw [← Keyword.map_name_all, List.mem_map]
  constructor
  · rintro ⟨k, -, hk⟩
    exact ⟨k, hk⟩
  · rintro ⟨k, hk⟩
    exact ⟨k, k.mem_all, hk⟩

theorem Keyword.name_mem_keywords (k : Keyword) : k.name ∈ keywords :=
  mem_keywords_iff.mpr ⟨k, rfl⟩

end LineScript
