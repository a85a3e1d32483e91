import HubLink.Chat
/-!
The command line: runs the chat exchange and prints its transcript. The exit code is 0 when the
exchange ended without an error and 1 otherwise.
-/
open HubLink

/-- Prints the chat transcript. -/
def main : IO UInt32 := do
  let (out, ok) := Chat.transcript
  IO.print out
  pure (if ok then 0 else 1)
