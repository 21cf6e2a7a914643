import Tangle.Shell.Regex.Matching
/-!
# The language of records

The structure of programs that work on records: rules, each with a pattern
that selects records and statements that run for them, and functions.
-/

namespace Tangle

namespace Shell

namespace Awk

/-- An operation on two numbers. -/
inductive Arith where
  | add | sub | mul | div | rem | pow
deriving Repr, DecidableEq

/-- A comparison of two values. -/
inductive Comparison where
  | lt | le | eq | ne | gt | ge
deriving Repr, DecidableEq

/-- Where `getline` reads. -/
inductive Origin where
  /-- The records of the input. -/
  | input
  /-- A file. -/
  | file
  /-- The output of a command. -/
  | command
deriving Repr, DecidableEq

/-- An expression. -/
inductive Expr where
  /-- A number. -/
  | number (x : Float)
  /-- A text. -/
  | text (s : Octets)
  /-- The record matches a regular expression. -/
  | regex (r : Regex)
  /-- A variable. -/
  | variable (name : Octets)
  /-- A field of the record. -/
  | field (index : Expr)
  /-- An element of an array. -/
  | element (array : Octets) (index : List Expr)
  /-- An array has an element. -/
  | member (index : List Expr) (array : Octets)
  /-- An assignment, after an operation with the former value if there is
  one. -/
  | assign (target : Expr) (op : Option Arith) (value : Expr)
  /-- One is added or taken away, before or after the value is taken. -/
  | step (target : Expr) (op : Arith) (before : Bool)
  /-- One of two expressions. -/
  | conditional (test yes no : Expr)
  /-- Both hold. -/
  | both (a b : Expr)
  /-- One of them holds. -/
  | either (a b : Expr)
  /-- It does not hold. -/
  | negation (e : Expr)
  /-- A text matches a regular expression. -/
  | matching (negated : Bool) (a pattern : Expr)
  /-- A comparison. -/
  | compare (c : Comparison) (a b : Expr)
  /-- Two texts one after the other. -/
  | join (a b : Expr)
  /-- An operation on numbers. -/
  | arith (op : Arith) (a b : Expr)
  /-- The number with the other sign. -/
  | minus (e : Expr)
  /-- The number. -/
  | plus (e : Expr)
  /-- A function of the program. -/
  | call (name : Octets) (args : List Expr)
  /-- A function of the language. -/
  | builtin (name : String) (args : List Expr)
  /-- Reads a record. -/
  | readLine (origin : Origin) (source : Option Expr) (target : Option Expr)

/-- Where output goes. -/
inductive Goal where
  /-- A file from its beginning. -/
  | file
  /-- The end of a file. -/
  | extend
  /-- The input of a command. -/
  | command
deriving Repr, DecidableEq

/-- A statement. -/
inductive Stmt where
  /-- An expression. -/
  | expr (e : Expr)
  /-- Prints values. -/
  | print (formatted : Bool) (args : List Expr) (goal : Option (Goal × Expr))
  /-- Statements in order. -/
  | block (body : List Stmt)
  /-- One of two statements. -/
  | conditional (test : Expr) (yes : Stmt) (no : Option Stmt)
  /-- A statement repeated while a test holds, with another one after each
  round. -/
  | loop (start : Option Stmt) (test : Option Expr) (next : Option Stmt) (body : Stmt)
  /-- A statement repeated until a test after it does not hold. -/
  | again (body : Stmt) (test : Expr)
  /-- A statement for each index of an array. -/
  | each (name array : Octets) (body : Stmt)
  /-- Ends a loop. -/
  | leaveLoop
  /-- Goes on with the next round. -/
  | nextRound
  /-- Goes on with the next record. -/
  | nextRecord
  /-- Goes on with the next file. -/
  | nextFile
  /-- Ends the program. -/
  | exit (status : Option Expr)
  /-- Ends a function. -/
  | giveBack (value : Option Expr)
  /-- Removes an element, or all. -/
  | delete (array : Octets) (index : List Expr)

/-- What records a rule is for. -/
inductive Selector where
  /-- The time before the first record. -/
  | start
  /-- The time after the last record. -/
  | finish
  /-- All records. -/
  | always
  /-- Those for which an expression holds. -/
  | holds (e : Expr)
  /-- Those from one to another. -/
  | range (first last : Expr)

/-- A rule. -/
structure Rule where
  /-- What records it is for. -/
  selector : Selector
  /-- What is done; without it the record is printed. -/
  body : Option Stmt

/-- A function. -/
structure Function where
  /-- The name. -/
  name : Octets
  /-- The parameters; those without an argument are local variables. -/
  parameters : List Octets
  /-- What it does. -/
  body : Stmt

/-- A program. -/
structure Program where
  /-- The rules in order. -/
  rules : List Rule
  /-- The functions. -/
  functions : List Function

end Awk

end Shell

end Tangle
