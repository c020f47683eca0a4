import Chip8.Instruction

namespace Chip8.Instruction

def mnemonic : Instruction → String
  | .sys _ => "Sys"
  | .clearScreen => "ClearScreen"
  | .ret => "Return"
  | .jump _ => "Jump"
  | .call _ => "Call"
  | .skipEqImm _ _ => "SkipEqImm"
  | .skipNeImm _ _ => "SkipNeImm"
  | .skipEqReg _ _ => "SkipEqReg"
  | .loadImm _ _ => "LoadImm"
  | .addImm _ _ => "AddImm"
  | .move _ _ => "Move"
  | .or _ _ => "Or"
  | .and _ _ => "And"
  | .xor _ _ => "Xor"
  | .addReg _ _ => "AddReg"
  | .subReg _ _ => "SubReg"
  | .shiftRight _ _ => "ShiftRight"
  | .subRegInv _ _ => "SubRegInv"
  | .shiftLeft _ _ => "ShiftLeft"
  | .skipNeReg _ _ => "SkipNeReg"
  | .loadIndex _ => "LoadIndex"
  | .jumpV0 _ => "JumpV0"
  | .random _ _ => "Random"
  | .draw _ _ _ => "Draw"
  | .skipKeyPressed _ => "SkipKeyPressed"
  | .skipKeyNotPressed _ => "SkipKeyNotPressed"
  | .loadDelay _ => "LoadDelay"
  | .waitKey _ => "WaitKey"
  | .setDelay _ => "SetDelay"
  | .setSound _ => "SetSound"
  | .addIndex _ => "AddIndex"
  | .loadGlyph _ => "LoadGlyph"
  | .storeBcd _ => "StoreBcd"
  | .storeRegs _ => "StoreRegs"
  | .loadRegs _ => "LoadRegs"

/-- The operands of an instruction, by shape. -/
inductive Operands where
  | none
  | address (nnn : Address)
  | named (fields : List (String × Nat))

def operands : Instruction → Operands
  | .clearScreen | .ret => .none
  | .sys nnn | .jump nnn | .call nnn | .loadIndex nnn | .jumpV0 nnn => .address nnn
  | .skipEqImm x kk | .skipNeImm x kk | .loadImm x kk | .addImm x kk | .random x kk =>
    .named [("x", x.val), ("kk", kk.toNat)]
  | .skipEqReg x y | .skipNeReg x y | .move x y | .or x y | .and x y | .xor x y | .addReg x y
  | .subReg x y | .shiftRight x y | .subRegInv x y | .shiftLeft x y =>
    .named [("x", x.val), ("y", y.val)]
  | .draw x y n => .named [("x", x.val), ("y", y.val), ("n", n.val)]
  | .skipKeyPressed x | .skipKeyNotPressed x | .loadDelay x | .waitKey x | .setDelay x | .setSound x
  | .addIndex x | .loadGlyph x | .storeBcd x | .storeRegs x | .loadRegs x =>
    .named [("x", x.val)]

/-- The trace text: an address in round brackets, named operands in braces. -/
def text (instruction : Instruction) : String :=
  match instruction.operands with
  | .none => instruction.mnemonic
  | .address nnn => s!"{instruction.mnemonic}({nnn.val})"
  | .named fields =>
    let written := fields.map fun (name, value) => s!"{name}: {value}"
    instruction.mnemonic ++ " \x7b " ++ ", ".intercalate written ++ " \x7d"

end Chip8.Instruction
