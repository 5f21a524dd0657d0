import Flattening.Legacy.Numbering

/-! # Catalogue rows: block ids 54 to 78 -/

namespace Flattening.Legacy

def rowsC : List Row :=
  [⟨54, "minecraft:chest",
     [(0, "minecraft:chest",
        [("facing", "north"), ("type", "single"), ("waterlogged", "false")]),
      (1, "minecraft:chest",
        [("facing", "north"), ("type", "single"), ("waterlogged", "false")]),
      (2, "minecraft:chest",
        [("facing", "north"), ("type", "single"), ("waterlogged", "false")]),
      (3, "minecraft:chest",
        [("facing", "south"), ("type", "single"), ("waterlogged", "false")]),
      (4, "minecraft:chest", [("facing", "west"), ("type", "single"), ("waterlogged", "false")]),
      (5, "minecraft:chest",
        [("facing", "east"), ("type", "single"), ("waterlogged", "false")])]⟩,
   ⟨55, "minecraft:redstone_wire",
     [(0, "minecraft:redstone_wire",
        [("east", "none"), ("north", "none"), ("power", "0"), ("south", "none"),
         ("west", "none")]),
      (1, "minecraft:redstone_wire",
        [("east", "none"), ("north", "none"), ("power", "1"), ("south", "none"),
         ("west", "none")]),
      (2, "minecraft:redstone_wire",
        [("east", "none"), ("north", "none"), ("power", "2"), ("south", "none"),
         ("west", "none")]),
      (3, "minecraft:redstone_wire",
        [("east", "none"), ("north", "none"), ("power", "3"), ("south", "none"),
         ("west", "none")]),
      (4, "minecraft:redstone_wire",
        [("east", "none"), ("north", "none"), ("power", "4"), ("south", "none"),
         ("west", "none")]),
      (5, "minecraft:redstone_wire",
        [("east", "none"), ("north", "none"), ("power", "5"), ("south", "none"),
         ("west", "none")]),
      (6, "minecraft:redstone_wire",
        [("east", "none"), ("north", "none"), ("power", "6"), ("south", "none"),
         ("west", "none")]),
      (7, "minecraft:redstone_wire",
        [("east", "none"), ("north", "none"), ("power", "7"), ("south", "none"),
         ("west", "none")]),
      (8, "minecraft:redstone_wire",
        [("east", "none"), ("north", "none"), ("power", "8"), ("south", "none"),
         ("west", "none")]),
      (9, "minecraft:redstone_wire",
        [("east", "none"), ("north", "none"), ("power", "9"), ("south", "none"),
         ("west", "none")]),
      (10, "minecraft:redstone_wire",
        [("east", "none"), ("north", "none"), ("power", "10"), ("south", "none"),
         ("west", "none")]),
      (11, "minecraft:redstone_wire",
        [("east", "none"), ("north", "none"), ("power", "11"), ("south", "none"),
         ("west", "none")]),
      (12, "minecraft:redstone_wire",
        [("east", "none"), ("north", "none"), ("power", "12"), ("south", "none"),
         ("west", "none")]),
      (13, "minecraft:redstone_wire",
        [("east", "none"), ("north", "none"), ("power", "13"), ("south", "none"),
         ("west", "none")]),
      (14, "minecraft:redstone_wire",
        [("east", "none"), ("north", "none"), ("power", "14"), ("south", "none"),
         ("west", "none")]),
      (15, "minecraft:redstone_wire",
        [("east", "none"), ("north", "none"), ("power", "15"), ("south", "none"),
         ("west", "none")])]⟩,
   ⟨56, "minecraft:diamond_ore", [(0, "minecraft:diamond_ore", [])]⟩,
   ⟨57, "minecraft:diamond_block", [(0, "minecraft:diamond_block", [])]⟩,
   ⟨58, "minecraft:crafting_table", [(0, "minecraft:crafting_table", [])]⟩,
   ⟨59, "minecraft:wheat",
     [(0, "minecraft:wheat", [("age", "0")]),
      (1, "minecraft:wheat", [("age", "1")]),
      (2, "minecraft:wheat", [("age", "2")]),
      (3, "minecraft:wheat", [("age", "3")]),
      (4, "minecraft:wheat", [("age", "4")]),
      (5, "minecraft:wheat", [("age", "5")]),
      (6, "minecraft:wheat", [("age", "6")]),
      (7, "minecraft:wheat", [("age", "7")])]⟩,
   ⟨60, "minecraft:farmland",
     [(0, "minecraft:farmland", [("moisture", "0")]),
      (1, "minecraft:farmland", [("moisture", "1")]),
      (2, "minecraft:farmland", [("moisture", "2")]),
      (3, "minecraft:farmland", [("moisture", "3")]),
      (4, "minecraft:farmland", [("moisture", "4")]),
      (5, "minecraft:farmland", [("moisture", "5")]),
      (6, "minecraft:farmland", [("moisture", "6")]),
      (7, "minecraft:farmland", [("moisture", "7")])]⟩,
   ⟨61, "minecraft:furnace",
     [(0, "minecraft:furnace", [("facing", "north"), ("lit", "false")]),
      (1, "minecraft:furnace", [("facing", "north"), ("lit", "false")]),
      (2, "minecraft:furnace", [("facing", "north"), ("lit", "false")]),
      (3, "minecraft:furnace", [("facing", "south"), ("lit", "false")]),
      (4, "minecraft:furnace", [("facing", "west"), ("lit", "false")]),
      (5, "minecraft:furnace", [("facing", "east"), ("lit", "false")])]⟩,
   ⟨62, "minecraft:lit_furnace",
     [(0, "minecraft:furnace", [("facing", "north"), ("lit", "true")]),
      (1, "minecraft:furnace", [("facing", "north"), ("lit", "true")]),
      (2, "minecraft:furnace", [("facing", "north"), ("lit", "true")]),
      (3, "minecraft:furnace", [("facing", "south"), ("lit", "true")]),
      (4, "minecraft:furnace", [("facing", "west"), ("lit", "true")]),
      (5, "minecraft:furnace", [("facing", "east"), ("lit", "true")])]⟩,
   ⟨63, "minecraft:standing_sign",
     [(0, "minecraft:sign", [("rotation", "0"), ("waterlogged", "false")]),
      (1, "minecraft:sign", [("rotation", "1"), ("waterlogged", "false")]),
      (2, "minecraft:sign", [("rotation", "2"), ("waterlogged", "false")]),
      (3, "minecraft:sign", [("rotation", "3"), ("waterlogged", "false")]),
      (4, "minecraft:sign", [("rotation", "4"), ("waterlogged", "false")]),
      (5, "minecraft:sign", [("rotation", "5"), ("waterlogged", "false")]),
      (6, "minecraft:sign", [("rotation", "6"), ("waterlogged", "false")]),
      (7, "minecraft:sign", [("rotation", "7"), ("waterlogged", "false")]),
      (8, "minecraft:sign", [("rotation", "8"), ("waterlogged", "false")]),
      (9, "minecraft:sign", [("rotation", "9"), ("waterlogged", "false")]),
      (10, "minecraft:sign", [("rotation", "10"), ("waterlogged", "false")]),
      (11, "minecraft:sign", [("rotation", "11"), ("waterlogged", "false")]),
      (12, "minecraft:sign", [("rotation", "12"), ("waterlogged", "false")]),
      (13, "minecraft:sign", [("rotation", "13"), ("waterlogged", "false")]),
      (14, "minecraft:sign", [("rotation", "14"), ("waterlogged", "false")]),
      (15, "minecraft:sign", [("rotation", "15"), ("waterlogged", "false")])]⟩,
   ⟨64, "minecraft:wooden_door",
     [(0, "minecraft:oak_door",
        [("facing", "east"), ("half", "lower"), ("hinge", "right"), ("open", "false"),
         ("powered", "false")]),
      (1, "minecraft:oak_door",
        [("facing", "south"), ("half", "lower"), ("hinge", "right"), ("open", "false"),
         ("powered", "false")]),
      (2, "minecraft:oak_door",
        [("facing", "west"), ("half", "lower"), ("hinge", "right"), ("open", "false"),
         ("powered", "false")]),
      (3, "minecraft:oak_door",
        [("facing", "north"), ("half", "lower"), ("hinge", "right"), ("open", "false"),
         ("powered", "false")]),
      (4, "minecraft:oak_door",
        [("facing", "east"), ("half", "lower"), ("hinge", "right"), ("open", "true"),
         ("powered", "false")]),
      (5, "minecraft:oak_door",
        [("facing", "south"), ("half", "lower"), ("hinge", "right"), ("open", "true"),
         ("powered", "false")]),
      (6, "minecraft:oak_door",
        [("facing", "west"), ("half", "lower"), ("hinge", "right"), ("open", "true"),
         ("powered", "false")]),
      (7, "minecraft:oak_door",
        [("facing", "north"), ("half", "lower"), ("hinge", "right"), ("open", "true"),
         ("powered", "false")]),
      (8, "minecraft:oak_door",
        [("facing", "east"), ("half", "upper"), ("hinge", "left"), ("open", "false"),
         ("powered", "false")]),
      (9, "minecraft:oak_door",
        [("facing", "east"), ("half", "upper"), ("hinge", "right"), ("open", "false"),
         ("powered", "false")]),
      (10, "minecraft:oak_door",
        [("facing", "east"), ("half", "upper"), ("hinge", "left"), ("open", "false"),
         ("powered", "true")]),
      (11, "minecraft:oak_door",
        [("facing", "east"), ("half", "upper"), ("hinge", "right"), ("open", "false"),
         ("powered", "true")])]⟩,
   ⟨65, "minecraft:ladder",
     [(0, "minecraft:ladder", [("facing", "north"), ("waterlogged", "false")]),
      (1, "minecraft:ladder", [("facing", "north"), ("waterlogged", "false")]),
      (2, "minecraft:ladder", [("facing", "north"), ("waterlogged", "false")]),
      (3, "minecraft:ladder", [("facing", "south"), ("waterlogged", "false")]),
      (4, "minecraft:ladder", [("facing", "west"), ("waterlogged", "false")]),
      (5, "minecraft:ladder", [("facing", "east"), ("waterlogged", "false")])]⟩,
   ⟨66, "minecraft:rail",
     [(0, "minecraft:rail", [("shape", "north_south")]),
      (1, "minecraft:rail", [("shape", "east_west")]),
      (2, "minecraft:rail", [("shape", "ascending_east")]),
      (3, "minecraft:rail", [("shape", "ascending_west")]),
      (4, "minecraft:rail", [("shape", "ascending_north")]),
      (5, "minecraft:rail", [("shape", "ascending_south")]),
      (6, "minecraft:rail", [("shape", "south_east")]),
      (7, "minecraft:rail", [("shape", "south_west")]),
      (8, "minecraft:rail", [("shape", "north_west")]),
      (9, "minecraft:rail", [("shape", "north_east")])]⟩,
   ⟨67, "minecraft:stone_stairs",
     [(0, "minecraft:cobblestone_stairs",
        [("facing", "east"), ("half", "bottom"), ("shape", "straight"),
         ("waterlogged", "false")]),
      (1, "minecraft:cobblestone_stairs",
        [("facing", "west"), ("half", "bottom"), ("shape", "straight"),
         ("waterlogged", "false")]),
      (2, "minecraft:cobblestone_stairs",
        [("facing", "south"), ("half", "bottom"), ("shape", "straight"),
         ("waterlogged", "false")]),
      (3, "minecraft:cobblestone_stairs",
        [("facing", "north"), ("half", "bottom"), ("shape", "straight"),
         ("waterlogged", "false")]),
      (4, "minecraft:cobblestone_stairs",
        [("facing", "east"), ("half", "top"), ("shape", "straight"), ("waterlogged", "false")]),
      (5, "minecraft:cobblestone_stairs",
        [("facing", "west"), ("half", "top"), ("shape", "straight"), ("waterlogged", "false")]),
      (6, "minecraft:cobblestone_stairs",
        [("facing", "south"), ("half", "top"), ("shape", "straight"), ("waterlogged", "false")]),
      (7, "minecraft:cobblestone_stairs",
        [("facing", "north"), ("half", "top"), ("shape", "straight"),
         ("waterlogged", "false")])]⟩,
   ⟨68, "minecraft:wall_sign",
     [(0, "minecraft:wall_sign", [("facing", "north"), ("waterlogged", "false")]),
      (1, "minecraft:wall_sign", [("facing", "north"), ("waterlogged", "false")]),
      (2, "minecraft:wall_sign", [("facing", "north"), ("waterlogged", "false")]),
      (3, "minecraft:wall_sign", [("facing", "south"), ("waterlogged", "false")]),
      (4, "minecraft:wall_sign", [("facing", "west"), ("waterlogged", "false")]),
      (5, "minecraft:wall_sign", [("facing", "east"), ("waterlogged", "false")])]⟩,
   ⟨69, "minecraft:lever",
     [(0, "minecraft:lever", [("face", "ceiling"), ("facing", "west"), ("powered", "false")]),
      (1, "minecraft:lever", [("face", "wall"), ("facing", "east"), ("powered", "false")]),
      (2, "minecraft:lever", [("face", "wall"), ("facing", "west"), ("powered", "false")]),
      (3, "minecraft:lever", [("face", "wall"), ("facing", "south"), ("powered", "false")]),
      (4, "minecraft:lever", [("face", "wall"), ("facing", "north"), ("powered", "false")]),
      (5, "minecraft:lever", [("face", "floor"), ("facing", "north"), ("powered", "false")]),
      (6, "minecraft:lever", [("face", "floor"), ("facing", "west"), ("powered", "false")]),
      (7, "minecraft:lever", [("face", "ceiling"), ("facing", "north"), ("powered", "false")]),
      (8, "minecraft:lever", [("face", "ceiling"), ("facing", "west"), ("powered", "true")]),
      (9, "minecraft:lever", [("face", "wall"), ("facing", "east"), ("powered", "true")]),
      (10, "minecraft:lever", [("face", "wall"), ("facing", "west"), ("powered", "true")]),
      (11, "minecraft:lever", [("face", "wall"), ("facing", "south"), ("powered", "true")]),
      (12, "minecraft:lever", [("face", "wall"), ("facing", "north"), ("powered", "true")]),
      (13, "minecraft:lever", [("face", "floor"), ("facing", "north"), ("powered", "true")]),
      (14, "minecraft:lever", [("face", "floor"), ("facing", "west"), ("powered", "true")]),
      (15, "minecraft:lever", [("face", "ceiling"), ("facing", "north"), ("powered", "true")])]⟩,
   ⟨70, "minecraft:stone_pressure_plate",
     [(0, "minecraft:stone_pressure_plate", [("powered", "false")]),
      (1, "minecraft:stone_pressure_plate", [("powered", "true")])]⟩,
   ⟨71, "minecraft:iron_door",
     [(0, "minecraft:iron_door",
        [("facing", "east"), ("half", "lower"), ("hinge", "right"), ("open", "false"),
         ("powered", "false")]),
      (1, "minecraft:iron_door",
        [("facing", "south"), ("half", "lower"), ("hinge", "right"), ("open", "false"),
         ("powered", "false")]),
      (2, "minecraft:iron_door",
        [("facing", "west"), ("half", "lower"), ("hinge", "right"), ("open", "false"),
         ("powered", "false")]),
      (3, "minecraft:iron_door",
        [("facing", "north"), ("half", "lower"), ("hinge", "right"), ("open", "false"),
         ("powered", "false")]),
      (4, "minecraft:iron_door",
        [("facing", "east"), ("half", "lower"), ("hinge", "right"), ("open", "true"),
         ("powered", "false")]),
      (5, "minecraft:iron_door",
        [("facing", "south"), ("half", "lower"), ("hinge", "right"), ("open", "true"),
         ("powered", "false")]),
      (6, "minecraft:iron_door",
        [("facing", "west"), ("half", "lower"), ("hinge", "right"), ("open", "true"),
         ("powered", "false")]),
      (7, "minecraft:iron_door",
        [("facing", "north"), ("half", "lower"), ("hinge", "right"), ("open", "true"),
         ("powered", "false")]),
      (8, "minecraft:iron_door",
        [("facing", "east"), ("half", "upper"), ("hinge", "left"), ("open", "false"),
         ("powered", "false")]),
      (9, "minecraft:iron_door",
        [("facing", "east"), ("half", "upper"), ("hinge", "right"), ("open", "false"),
         ("powered", "false")]),
      (10, "minecraft:iron_door",
        [("facing", "east"), ("half", "upper"), ("hinge", "left"), ("open", "false"),
         ("powered", "true")]),
      (11, "minecraft:iron_door",
        [("facing", "east"), ("half", "upper"), ("hinge", "right"), ("open", "false"),
         ("powered", "true")])]⟩,
   ⟨72, "minecraft:wooden_pressure_plate",
     [(0, "minecraft:oak_pressure_plate", [("powered", "false")]),
      (1, "minecraft:oak_pressure_plate", [("powered", "true")])]⟩,
   ⟨73, "minecraft:redstone_ore", [(0, "minecraft:redstone_ore", [("lit", "false")])]⟩,
   ⟨74, "minecraft:lit_redstone_ore", [(0, "minecraft:redstone_ore", [("lit", "true")])]⟩,
   ⟨75, "minecraft:unlit_redstone_torch",
     [(0, "minecraft:redstone_torch", [("lit", "false")]),
      (1, "minecraft:redstone_wall_torch", [("facing", "east"), ("lit", "false")]),
      (2, "minecraft:redstone_wall_torch", [("facing", "west"), ("lit", "false")]),
      (3, "minecraft:redstone_wall_torch", [("facing", "south"), ("lit", "false")]),
      (4, "minecraft:redstone_wall_torch", [("facing", "north"), ("lit", "false")]),
      (5, "minecraft:redstone_torch", [("lit", "false")])]⟩,
   ⟨76, "minecraft:redstone_torch",
     [(0, "minecraft:redstone_torch", [("lit", "true")]),
      (1, "minecraft:redstone_wall_torch", [("facing", "east"), ("lit", "true")]),
      (2, "minecraft:redstone_wall_torch", [("facing", "west"), ("lit", "true")]),
      (3, "minecraft:redstone_wall_torch", [("facing", "south"), ("lit", "true")]),
      (4, "minecraft:redstone_wall_torch", [("facing", "north"), ("lit", "true")]),
      (5, "minecraft:redstone_torch", [("lit", "true")])]⟩,
   ⟨77, "minecraft:stone_button",
     [(0, "minecraft:stone_button",
        [("face", "ceiling"), ("facing", "north"), ("powered", "false")]),
      (1, "minecraft:stone_button",
        [("face", "wall"), ("facing", "east"), ("powered", "false")]),
      (2, "minecraft:stone_button",
        [("face", "wall"), ("facing", "west"), ("powered", "false")]),
      (3, "minecraft:stone_button",
        [("face", "wall"), ("facing", "south"), ("powered", "false")]),
      (4, "minecraft:stone_button",
        [("face", "wall"), ("facing", "north"), ("powered", "false")]),
      (5, "minecraft:stone_button",
        [("face", "floor"), ("facing", "north"), ("powered", "false")]),
      (8, "minecraft:stone_button",
        [("face", "ceiling"), ("facing", "north"), ("powered", "true")]),
      (9, "minecraft:stone_button", [("face", "wall"), ("facing", "east"), ("powered", "true")]),
      (10, "minecraft:stone_button",
        [("face", "wall"), ("facing", "west"), ("powered", "true")]),
      (11, "minecraft:stone_button",
        [("face", "wall"), ("facing", "south"), ("powered", "true")]),
      (12, "minecraft:stone_button",
        [("face", "wall"), ("facing", "north"), ("powered", "true")]),
      (13, "minecraft:stone_button",
        [("face", "floor"), ("facing", "north"), ("powered", "true")])]⟩,
   ⟨78, "minecraft:snow_layer",
     [(0, "minecraft:snow", [("layers", "1")]),
      (1, "minecraft:snow", [("layers", "2")]),
      (2, "minecraft:snow", [("layers", "3")]),
      (3, "minecraft:snow", [("layers", "4")]),
      (4, "minecraft:snow", [("layers", "5")]),
      (5, "minecraft:snow", [("layers", "6")]),
      (6, "minecraft:snow", [("layers", "7")]),
      (7, "minecraft:snow", [("layers", "8")])]⟩]

end Flattening.Legacy
