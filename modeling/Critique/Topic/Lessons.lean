import Critique.Topic.Basic

/-!
# Lessons

The categories of topics in the order in which they are tried, and notes on languages.
-/

namespace Critique.Topic

def errorHandling : Topic.Category where
  slug := "error-handling"
  title := "Error Handling"
  keywords := [
    .word "error", .word "exception", .word "try", .word "catch", .word "panic", .word "result",
    .word "option", .word "null", .word "nil", .stem "rais", .stem "throw"]
  overview :=
    "Error handling is how a program notices that something went wrong and decides what to do " ++
    "about it: recover, retry, report, or stop."
  keyPoints := [
    "Distinguish expected failures (bad input, missing files) from programmer bugs",
    "Handle errors at the level that has enough context to act on them",
    "Never silently swallow an error; at minimum log it",
    "Keep error messages specific: say what failed and with which input"]
  practice := [
    "Write a function that parses a number from user input and reports invalid input clearly",
    "Take a program that crashes on a missing file and make it print a helpful message " ++
      "instead"]

def dataStructures : Topic.Category where
  slug := "data-structures"
  title := "Data Structures"
  keywords := [
    .word "array", .word "list", .stem "dict", .word "map", .stem "hash", .word "set",
    .word "tree", .word "graph", .word "stack", .word "queue", .word "linked", .word "heap",
    .word "tuple", .word "vector", .word "slice", .stem "matri"]
  overview :=
    "Data structures organize values so the operations a program performs most often are " ++
    "cheap."
  keyPoints := [
    "Pick the structure by the operations you need: lookup, insertion order, uniqueness, " ++
      "priority",
    "Know the cost of each operation (for example O(1) hash lookup versus O(n) list search)",
    "Prefer the standard library's implementations before writing your own",
    "Mutating a collection while iterating over it is a common source of bugs"]
  practice := [
    "Count word frequencies in a paragraph using a map",
    "Implement a stack and use it to check whether brackets in a string are balanced",
    "Find duplicates in a list first with nested loops, then with a set, and compare"]

def objects : Topic.Category where
  slug := "oop"
  title := "Object-Oriented Programming"
  keywords := [
    .word "class", .word "object", .stem "inherit", .stem "polymorph", .word "interface",
    .stem "encapsulat", .stem "abstract", .word "trait", .word "struct", .word "method",
    .word "constructor", .word "oop"]
  overview :=
    "Object-oriented programming bundles data with the operations on that data and lets " ++
    "different types share a common interface."
  keyPoints := [
    "Encapsulation: keep internal state private and expose meaningful operations",
    "Prefer composition over deep inheritance hierarchies",
    "Polymorphism lets callers depend on an interface instead of a concrete type",
    "Each type should have one clear responsibility"]
  practice := [
    "Model a bank account with deposit and withdraw operations that reject invalid amounts",
    "Define a Shape interface with an area method and implement it for circles and " ++
      "rectangles"]

def concepts : Topic.Category where
  slug := "concepts"
  title := "Core Concepts"
  keywords := [
    .stem "recursi", .word "closure", .word "goroutine", .stem "concurren", .stem "parallel",
    .word "async", .word "await", .word "promise", .stem "thread", .stem "generic",
    .word "lambda", .word "callback", .stem "iterat", .stem "generat", .word "pointer",
    .word "memory", .word "ownership", .stem "borrow", .word "channel", .word "higher",
    .word "functional", .word "event"]
  overview :=
    "These are the ideas that shape how programs are structured and executed beyond " ++
    "straight-line code: deferred work, shared state, and abstraction over behavior."
  keyPoints := [
    "Understand what runs when: eagerly, lazily, or concurrently",
    "Be explicit about who owns data and who may change it",
    "Shared mutable state between concurrent tasks needs synchronization",
    "Small, focused examples are the fastest way to build intuition"]
  practice := [
    "Write the same task sequentially and concurrently, then measure both",
    "Trace a small example by hand, writing down each step as it executes"]

def fundamentals : Topic.Category where
  slug := "fundamentals"
  title := "Fundamentals"
  keywords := [
    .word "variable", .word "loop", .word "function", .stem "condition", .word "if",
    .word "operator", .word "type", .word "string", .word "syntax", .word "scope", .word "input",
    .word "output", .word "boolean", .word "number", .word "comment"]
  overview :=
    "Fundamentals are the building blocks every program is made of: values, names, decisions, " ++
    "and repetition."
  keyPoints := [
    "Give variables names that describe what they hold",
    "Keep functions short and focused on one task",
    "Check boundary cases: empty input, zero, negative numbers",
    "Read error messages carefully; they usually point at the line that failed"]
  practice := [
    "Write a program that prints the multiplication table for a number",
    "Write a function that returns the largest of three numbers, then test it with ties"]

def general : Topic.Category where
  slug := "general"
  title := "Programming Topic"
  keywords := []
  overview :=
    "This topic is best learned by combining a short explanation with hands-on experiments."
  keyPoints := [
    "Start from a minimal working example",
    "Change one thing at a time and observe the effect",
    "Read the official documentation for the language feature",
    "Explain the idea in your own words to check your understanding"]
  practice := [
    "Write the smallest program that uses this topic",
    "Extend it with one realistic requirement and handle its edge cases"]

/-- Categories with keywords, in the order in which they are tried. -/
def categories : List Category :=
  [errorHandling, dataStructures, objects, concepts, fundamentals]

/-- The first category with a keyword that fits a word of the topic. -/
def classify (topic : Text) : Category :=
  (categories.find? (·.covers (words topic))).getD general

def notes : List (Text × Text) := [
  ("python", "Python favors readability: follow PEP 8, use built-ins like enumerate and zip, and let " ++
    "exceptions propagate to a handler that can act on them."),
  ("javascript", "JavaScript is single-threaded with an event loop: prefer const/let, use === for " ++
    "comparisons, and await promises instead of nesting callbacks."),
  ("typescript", "TypeScript adds static types on top of JavaScript: let the compiler catch mistakes by " ++
    "typing function signatures and avoiding any."),
  ("go", "Go keeps things simple: errors are returned as values, goroutines are cheap, and " ++
    "channels are the idiomatic way to share data between them."),
  ("rust", "Rust checks ownership and borrowing at compile time: errors are values of type Result, " ++
    "and the compiler prevents data races."),
  ("java", "Java is strongly typed and class-based: use checked exceptions deliberately and prefer " ++
    "the collections framework over arrays."),
  ("cpp", "C++ gives direct control over memory: prefer RAII, smart pointers and standard " ++
    "containers over manual new/delete."),
  ("c", "C is close to the machine: track buffer sizes explicitly and check every return value."),
  ("csharp", "C# runs on .NET: use properties, LINQ for collection queries, and async/await for I/O."),
  ("ruby", "Ruby optimizes for programmer happiness: blocks and enumerables replace most explicit " ++
    "loops.")]

def note? (language : Text) : Option Text := notes.lookup language

end Critique.Topic
