import TwinSyntax.Diagnostic

/-!
# Sources of tokens

The grammar reads from a `TokenSource`: a finite list of items, each a token or a lexical error,
and behind them the end of the file for ever. Anything that yields the common tokens and can say
where in a text a span lies can be read.
-/

namespace TwinSyntax

/-- What a source yields at one step. -/
abbrev TokenItem := Except LexError Token

/-- Tokens to read, in order. -/
structure TokenSource where
  /-- What is yielded before the end of the file. -/
  items : List TokenItem
  /-- Where the end of the file lies. -/
  endSpan : Span
  /-- The location of a span in the text behind the tokens. -/
  locate : Span → Location

/-- The end-of-file token that the source yields once its items are read. -/
def TokenSource.endToken (source : TokenSource) : Token := ⟨.endOfFile, source.endSpan⟩

end TwinSyntax
