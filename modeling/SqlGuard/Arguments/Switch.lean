import SqlGuard.Text.Similarity

/-!
# Switches of the command line

A `Choice` takes a value, an `Inquiry` asks for a text and takes none. All have
a long name behind two hyphens, and most a letter behind one.

They are the options of `Cli`, and those that its parser adds.
-/
namespace SqlGuard.Arguments

inductive Choice
  | config
  | url
  | host
  | port
  | user
  | database
  deriving DecidableEq, Repr

inductive Inquiry
  | help
  | version
  deriving DecidableEq, Repr

inductive Switch
  | choice (c : Choice)
  | inquiry (i : Inquiry)
  deriving DecidableEq, Repr

namespace Choice

def all : List Choice := [config, url, host, port, user, database]

def name : Choice → String
  | config => "config"
  | url => "url"
  | host => "host"
  | port => "port"
  | user => "user"
  | database => "database"

def letter : Choice → Option Char
  | config | url => none
  | host => some 'H'
  | port => some 'P'
  | user => some 'u'
  | database => some 'd'

/-- What stands for the value in texts about the choice. -/
def valueName : Choice → String
  | config => "PATH"
  | url => "URL"
  | host => "HOST"
  | port => "PORT"
  | user => "USER"
  | database => "DATABASE"

def display (c : Choice) : String := "--" ++ c.name ++ " <" ++ c.valueName ++ ">"

end Choice

namespace Inquiry

def all : List Inquiry := [help, version]

def name : Inquiry → String
  | help => "help"
  | version => "version"

def letter : Inquiry → Char
  | help => 'h'
  | version => 'V'

def display (i : Inquiry) : String := "--" ++ i.name

end Inquiry

namespace Switch

def all : List Switch := Choice.all.map choice ++ Inquiry.all.map inquiry

def name : Switch → String
  | choice c => c.name
  | inquiry i => i.name

def letter : Switch → Option Char
  | choice c => c.letter
  | inquiry i => some i.letter

def display : Switch → String
  | choice c => c.display
  | inquiry i => i.display

def ofName (name : List Char) : Option Switch := all.find? fun s => s.name.toList = name

def ofLetter (c : Char) : Option Switch := all.find? fun s => s.letter = some c

/-- The switch that may have been meant by a name. -/
def similarTo (name : List Char) : Option Switch :=
  (Text.mostSimilar name (all.map fun s => s.name.toList)).bind ofName

end Switch

end SqlGuard.Arguments
