namespace StackForth.Text

def sorted (texts : List String) : List String :=
  texts.mergeSort fun a b => !decide (b < a)

end StackForth.Text
