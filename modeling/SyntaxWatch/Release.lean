import SyntaxWatch.Text.Basic

/-!
# Release

The names under which the two programs go, and their version.
-/

namespace SyntaxWatch.Release

/-- The name of the program for the command line. -/
def consoleName : Text := "perl-syntax-validator".toList

/-- The name of the language server. -/
def serverName : Text := "perl-syntax-ls".toList

/-- The version of both. -/
def version : Text := "0.1.0".toList

/-- What a program says when its version is asked for. -/
def line (name : Text) : Text :=
  name ++ ' ' :: version ++ ['\n']

end SyntaxWatch.Release
