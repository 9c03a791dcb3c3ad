namespace StateTransition.Text

def hasNoGlyph (c : Char) : Bool :=
  let code := c.toNat
  code < 32 || (127 ≤ code && code ≤ 160) || code == 173

def hexDigits (value : Nat) : String := String.ofList (Nat.toDigits 16 value)

def charLiteral (c : Char) : String :=
  let body :=
    if c = '\'' then "\\'"
    else if c = '\\' then "\\\\"
    else if c = '\n' then "\\n"
    else if c = '\r' then "\\r"
    else if c = '\t' then "\\t"
    else if c.toNat = 0 then "\\0"
    else if hasNoGlyph c then "\\u\x7b" ++ hexDigits c.toNat ++ "\x7d"
    else c.toString
  "'" ++ body ++ "'"

end StateTransition.Text
