import EventLedger.CommandLine.Grammar

namespace EventLedger.CommandLine.CommandForm

def titled (heading : String) (lines : List String) : String :=
  if lines.isEmpty then ""
  else "\n" ++ heading ++ ":\n" ++ String.join (lines.map fun line => "  " ++ line ++ "\n")

def optionLine (p : Parameter) : String :=
  (p.letter.elim "    " fun c => String.ofList ['-', c, ',', ' ']) ++ p.label

def usageLine (form : CommandForm) : String :=
  let required := form.parameters.filter (·.required)
  " ".intercalate (["Usage:", form.fullName, "[OPTIONS]"] ++ required.map Parameter.label ++
    (if form.subcommands.isEmpty then [] else ["<COMMAND>"]))

def helpText (form : CommandForm) : String :=
  form.about ++ "\n\n" ++ form.usageLine ++ "\n" ++
    titled "Commands" (form.subcommands.map fun c => c.name ++ "  " ++ c.about) ++
    titled "Options" ((form.parameters.filter Parameter.isNamed).map optionLine)

end EventLedger.CommandLine.CommandForm
