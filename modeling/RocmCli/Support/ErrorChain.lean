namespace RocmCli

/-!
# Errors with context

The programs report failures as a chain of messages: the outermost context
first, the root cause last.  `render` is the one-line form that the messages
themselves embed.
-/

/-- A failure and the contexts it was reported through, outermost first. -/
structure ErrorChain where
  messages : List String
  deriving DecidableEq, Repr

namespace ErrorChain

def ofMessage (message : String) : ErrorChain := ⟨[message]⟩

/-- Report the same failure under one more context. -/
def context (message : String) (error : ErrorChain) : ErrorChain :=
  ⟨message :: error.messages⟩

/-- The whole chain on one line. -/
def render (error : ErrorChain) : String := ": ".intercalate error.messages

end ErrorChain

/-- What succeeds in two parts succeeds in each. -/
theorem bind_ok {R S : Type u} {first : Except ErrorChain R} {next : R -> Except ErrorChain S}
    {result : S} : (first >>= next) = .ok result ↔
      exists value, first = .ok value ∧ next value = .ok result := by
  cases first with
  | error error => exact ⟨nofun, fun ⟨_, no, _⟩ => (nomatch no)⟩
  | ok value =>
      constructor
      · exact fun finished => ⟨value, rfl, finished⟩
      · rintro ⟨other, same, finished⟩
        cases same
        exact finished

end RocmCli
