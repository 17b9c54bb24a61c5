namespace ReportCards.Text.Utf8

inductive State where
  | between
  /-- In a character: the bits read so far, how many bytes are missing, and the range of the next
  one. -/
  | inside (bits missing : Nat) (low high : UInt8)
deriving DecidableEq, Repr

def begin (b : UInt8) : List (Option Char) × State :=
  let n := b.toNat
  if n < 0x80 then ([some (Char.ofNat n)], .between)
  else if n < 0xC2 then ([none], .between)
  else if n < 0xE0 then ([], .inside (n - 0xC0) 1 0x80 0xBF)
  else if n = 0xE0 then ([], .inside 0 2 0xA0 0xBF)
  else if n = 0xED then ([], .inside 0xD 2 0x80 0x9F)
  else if n < 0xF0 then ([], .inside (n - 0xE0) 2 0x80 0xBF)
  else if n = 0xF0 then ([], .inside 0 3 0x90 0xBF)
  else if n < 0xF4 then ([], .inside (n - 0xF0) 3 0x80 0xBF)
  else if n = 0xF4 then ([], .inside 4 3 0x80 0x8F)
  else ([none], .between)

def step (state : State) (b : UInt8) : List (Option Char) × State :=
  match state with
  | .between => begin b
  | .inside bits missing low high =>
      if low ≤ b ∧ b ≤ high then
        let bits := 64 * bits + b.toNat % 64
        if missing = 1 then ([some (Char.ofNat bits)], .between)
        else ([], .inside bits (missing - 1) 0x80 0xBF)
      else
        let (characters, state) := begin b
        (none :: characters, state)

def characters : State → List UInt8 → List (Option Char)
  | .between, [] => []
  | .inside .., [] => [none]
  | state, b :: rest => (step state b).1 ++ characters (step state b).2 rest

def decode? (bytes : List UInt8) : Option String :=
  ((characters .between bytes).mapM id).map String.ofList

def replacement : Char := '\ufffd'

def decodeLossy (bytes : List UInt8) : String :=
  String.ofList ((characters .between bytes).map (·.getD replacement))

end ReportCards.Text.Utf8
