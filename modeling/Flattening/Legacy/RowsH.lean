import Flattening.Legacy.Numbering

/-! # Catalogue rows: block ids 176 to 200 -/

namespace Flattening.Legacy

def rowsH : List Row :=
  [⟨176, "minecraft:standing_banner",
     [(0, "minecraft:white_banner", [("rotation", "0")]),
      (1, "minecraft:white_banner", [("rotation", "1")]),
      (2, "minecraft:white_banner", [("rotation", "2")]),
      (3, "minecraft:white_banner", [("rotation", "3")]),
      (4, "minecraft:white_banner", [("rotation", "4")]),
      (5, "minecraft:white_banner", [("rotation", "5")]),
      (6, "minecraft:white_banner", [("rotation", "6")]),
      (7, "minecraft:white_banner", [("rotation", "7")]),
      (8, "minecraft:white_banner", [("rotation", "8")]),
      (9, "minecraft:white_banner", [("rotation", "9")]),
      (10, "minecraft:white_banner", [("rotation", "10")]),
      (11, "minecraft:white_banner", [("rotation", "11")]),
      (12, "minecraft:white_banner", [("rotation", "12")]),
      (13, "minecraft:white_banner", [("rotation", "13")]),
      (14, "minecraft:white_banner", [("rotation", "14")]),
      (15, "minecraft:white_banner", [("rotation", "15")])]⟩,
   ⟨177, "minecraft:wall_banner",
     [(0, "minecraft:white_wall_banner", [("facing", "north")]),
      (1, "minecraft:white_wall_banner", [("facing", "north")]),
      (2, "minecraft:white_wall_banner", [("facing", "north")]),
      (3, "minecraft:white_wall_banner", [("facing", "south")]),
      (4, "minecraft:white_wall_banner", [("facing", "west")]),
      (5, "minecraft:white_wall_banner", [("facing", "east")])]⟩,
   ⟨178, "minecraft:daylight_detector_inverted",
     [(0, "minecraft:daylight_detector", [("inverted", "true"), ("power", "0")]),
      (1, "minecraft:daylight_detector", [("inverted", "true"), ("power", "1")]),
      (2, "minecraft:daylight_detector", [("inverted", "true"), ("power", "2")]),
      (3, "minecraft:daylight_detector", [("inverted", "true"), ("power", "3")]),
      (4, "minecraft:daylight_detector", [("inverted", "true"), ("power", "4")]),
      (5, "minecraft:daylight_detector", [("inverted", "true"), ("power", "5")]),
      (6, "minecraft:daylight_detector", [("inverted", "true"), ("power", "6")]),
      (7, "minecraft:daylight_detector", [("inverted", "true"), ("power", "7")]),
      (8, "minecraft:daylight_detector", [("inverted", "true"), ("power", "8")]),
      (9, "minecraft:daylight_detector", [("inverted", "true"), ("power", "9")]),
      (10, "minecraft:daylight_detector", [("inverted", "true"), ("power", "10")]),
      (11, "minecraft:daylight_detector", [("inverted", "true"), ("power", "11")]),
      (12, "minecraft:daylight_detector", [("inverted", "true"), ("power", "12")]),
      (13, "minecraft:daylight_detector", [("inverted", "true"), ("power", "13")]),
      (14, "minecraft:daylight_detector", [("inverted", "true"), ("power", "14")]),
      (15, "minecraft:daylight_detector", [("inverted", "true"), ("power", "15")])]⟩,
   ⟨179, "minecraft:red_sandstone",
     [(0, "minecraft:red_sandstone", []),
      (1, "minecraft:chiseled_red_sandstone", []),
      (2, "minecraft:cut_red_sandstone", [])]⟩,
   ⟨180, "minecraft:red_sandstone_stairs",
     [(0, "minecraft:red_sandstone_stairs",
        [("facing", "east"), ("half", "bottom"), ("shape", "straight"),
         ("waterlogged", "false")]),
      (1, "minecraft:red_sandstone_stairs",
        [("facing", "west"), ("half", "bottom"), ("shape", "straight"),
         ("waterlogged", "false")]),
      (2, "minecraft:red_sandstone_stairs",
        [("facing", "south"), ("half", "bottom"), ("shape", "straight"),
         ("waterlogged", "false")]),
      (3, "minecraft:red_sandstone_stairs",
        [("facing", "north"), ("half", "bottom"), ("shape", "straight"),
         ("waterlogged", "false")]),
      (4, "minecraft:red_sandstone_stairs",
        [("facing", "east"), ("half", "top"), ("shape", "straight"), ("waterlogged", "false")]),
      (5, "minecraft:red_sandstone_stairs",
        [("facing", "west"), ("half", "top"), ("shape", "straight"), ("waterlogged", "false")]),
      (6, "minecraft:red_sandstone_stairs",
        [("facing", "south"), ("half", "top"), ("shape", "straight"), ("waterlogged", "false")]),
      (7, "minecraft:red_sandstone_stairs",
        [("facing", "north"), ("half", "top"), ("shape", "straight"),
         ("waterlogged", "false")])]⟩,
   ⟨181, "minecraft:double_stone_slab2",
     [(0, "minecraft:red_sandstone_slab", [("type", "double"), ("waterlogged", "false")]),
      (8, "minecraft:smooth_red_sandstone", [])]⟩,
   ⟨182, "minecraft:stone_slab2",
     [(0, "minecraft:red_sandstone_slab", [("type", "bottom"), ("waterlogged", "false")]),
      (8, "minecraft:red_sandstone_slab", [("type", "top"), ("waterlogged", "false")])]⟩,
   ⟨183, "minecraft:spruce_fence_gate",
     [(0, "minecraft:spruce_fence_gate",
        [("facing", "south"), ("in_wall", "false"), ("open", "false"), ("powered", "false")]),
      (1, "minecraft:spruce_fence_gate",
        [("facing", "west"), ("in_wall", "false"), ("open", "false"), ("powered", "false")]),
      (2, "minecraft:spruce_fence_gate",
        [("facing", "north"), ("in_wall", "false"), ("open", "false"), ("powered", "false")]),
      (3, "minecraft:spruce_fence_gate",
        [("facing", "east"), ("in_wall", "false"), ("open", "false"), ("powered", "false")]),
      (4, "minecraft:spruce_fence_gate",
        [("facing", "south"), ("in_wall", "false"), ("open", "true"), ("powered", "false")]),
      (5, "minecraft:spruce_fence_gate",
        [("facing", "west"), ("in_wall", "false"), ("open", "true"), ("powered", "false")]),
      (6, "minecraft:spruce_fence_gate",
        [("facing", "north"), ("in_wall", "false"), ("open", "true"), ("powered", "false")]),
      (7, "minecraft:spruce_fence_gate",
        [("facing", "east"), ("in_wall", "false"), ("open", "true"), ("powered", "false")])]⟩,
   ⟨184, "minecraft:birch_fence_gate",
     [(0, "minecraft:birch_fence_gate",
        [("facing", "south"), ("in_wall", "false"), ("open", "false"), ("powered", "false")]),
      (1, "minecraft:birch_fence_gate",
        [("facing", "west"), ("in_wall", "false"), ("open", "false"), ("powered", "false")]),
      (2, "minecraft:birch_fence_gate",
        [("facing", "north"), ("in_wall", "false"), ("open", "false"), ("powered", "false")]),
      (3, "minecraft:birch_fence_gate",
        [("facing", "east"), ("in_wall", "false"), ("open", "false"), ("powered", "false")]),
      (4, "minecraft:birch_fence_gate",
        [("facing", "south"), ("in_wall", "false"), ("open", "true"), ("powered", "false")]),
      (5, "minecraft:birch_fence_gate",
        [("facing", "west"), ("in_wall", "false"), ("open", "true"), ("powered", "false")]),
      (6, "minecraft:birch_fence_gate",
        [("facing", "north"), ("in_wall", "false"), ("open", "true"), ("powered", "false")]),
      (7, "minecraft:birch_fence_gate",
        [("facing", "east"), ("in_wall", "false"), ("open", "true"), ("powered", "false")])]⟩,
   ⟨185, "minecraft:jungle_fence_gate",
     [(0, "minecraft:jungle_fence_gate",
        [("facing", "south"), ("in_wall", "false"), ("open", "false"), ("powered", "false")]),
      (1, "minecraft:jungle_fence_gate",
        [("facing", "west"), ("in_wall", "false"), ("open", "false"), ("powered", "false")]),
      (2, "minecraft:jungle_fence_gate",
        [("facing", "north"), ("in_wall", "false"), ("open", "false"), ("powered", "false")]),
      (3, "minecraft:jungle_fence_gate",
        [("facing", "east"), ("in_wall", "false"), ("open", "false"), ("powered", "false")]),
      (4, "minecraft:jungle_fence_gate",
        [("facing", "south"), ("in_wall", "false"), ("open", "true"), ("powered", "false")]),
      (5, "minecraft:jungle_fence_gate",
        [("facing", "west"), ("in_wall", "false"), ("open", "true"), ("powered", "false")]),
      (6, "minecraft:jungle_fence_gate",
        [("facing", "north"), ("in_wall", "false"), ("open", "true"), ("powered", "false")]),
      (7, "minecraft:jungle_fence_gate",
        [("facing", "east"), ("in_wall", "false"), ("open", "true"), ("powered", "false")])]⟩,
   ⟨186, "minecraft:dark_oak_fence_gate",
     [(0, "minecraft:dark_oak_fence_gate",
        [("facing", "south"), ("in_wall", "false"), ("open", "false"), ("powered", "false")]),
      (1, "minecraft:dark_oak_fence_gate",
        [("facing", "west"), ("in_wall", "false"), ("open", "false"), ("powered", "false")]),
      (2, "minecraft:dark_oak_fence_gate",
        [("facing", "north"), ("in_wall", "false"), ("open", "false"), ("powered", "false")]),
      (3, "minecraft:dark_oak_fence_gate",
        [("facing", "east"), ("in_wall", "false"), ("open", "false"), ("powered", "false")]),
      (4, "minecraft:dark_oak_fence_gate",
        [("facing", "south"), ("in_wall", "false"), ("open", "true"), ("powered", "false")]),
      (5, "minecraft:dark_oak_fence_gate",
        [("facing", "west"), ("in_wall", "false"), ("open", "true"), ("powered", "false")]),
      (6, "minecraft:dark_oak_fence_gate",
        [("facing", "north"), ("in_wall", "false"), ("open", "true"), ("powered", "false")]),
      (7, "minecraft:dark_oak_fence_gate",
        [("facing", "east"), ("in_wall", "false"), ("open", "true"), ("powered", "false")])]⟩,
   ⟨187, "minecraft:acacia_fence_gate",
     [(0, "minecraft:acacia_fence_gate",
        [("facing", "south"), ("in_wall", "false"), ("open", "false"), ("powered", "false")]),
      (1, "minecraft:acacia_fence_gate",
        [("facing", "west"), ("in_wall", "false"), ("open", "false"), ("powered", "false")]),
      (2, "minecraft:acacia_fence_gate",
        [("facing", "north"), ("in_wall", "false"), ("open", "false"), ("powered", "false")]),
      (3, "minecraft:acacia_fence_gate",
        [("facing", "east"), ("in_wall", "false"), ("open", "false"), ("powered", "false")]),
      (4, "minecraft:acacia_fence_gate",
        [("facing", "south"), ("in_wall", "false"), ("open", "true"), ("powered", "false")]),
      (5, "minecraft:acacia_fence_gate",
        [("facing", "west"), ("in_wall", "false"), ("open", "true"), ("powered", "false")]),
      (6, "minecraft:acacia_fence_gate",
        [("facing", "north"), ("in_wall", "false"), ("open", "true"), ("powered", "false")]),
      (7, "minecraft:acacia_fence_gate",
        [("facing", "east"), ("in_wall", "false"), ("open", "true"), ("powered", "false")])]⟩,
   ⟨188, "minecraft:spruce_fence",
     [(0, "minecraft:spruce_fence",
        [("east", "false"), ("north", "false"), ("south", "false"), ("waterlogged", "false"),
         ("west", "false")])]⟩,
   ⟨189, "minecraft:birch_fence",
     [(0, "minecraft:birch_fence",
        [("east", "false"), ("north", "false"), ("south", "false"), ("waterlogged", "false"),
         ("west", "false")])]⟩,
   ⟨190, "minecraft:jungle_fence",
     [(0, "minecraft:jungle_fence",
        [("east", "false"), ("north", "false"), ("south", "false"), ("waterlogged", "false"),
         ("west", "false")])]⟩,
   ⟨191, "minecraft:dark_oak_fence",
     [(0, "minecraft:dark_oak_fence",
        [("east", "false"), ("north", "false"), ("south", "false"), ("waterlogged", "false"),
         ("west", "false")])]⟩,
   ⟨192, "minecraft:acacia_fence",
     [(0, "minecraft:acacia_fence",
        [("east", "false"), ("north", "false"), ("south", "false"), ("waterlogged", "false"),
         ("west", "false")])]⟩,
   ⟨193, "minecraft:spruce_door",
     [(0, "minecraft:spruce_door",
        [("facing", "east"), ("half", "lower"), ("hinge", "right"), ("open", "false"),
         ("powered", "false")]),
      (1, "minecraft:spruce_door",
        [("facing", "south"), ("half", "lower"), ("hinge", "right"), ("open", "false"),
         ("powered", "false")]),
      (2, "minecraft:spruce_door",
        [("facing", "west"), ("half", "lower"), ("hinge", "right"), ("open", "false"),
         ("powered", "false")]),
      (3, "minecraft:spruce_door",
        [("facing", "north"), ("half", "lower"), ("hinge", "right"), ("open", "false"),
         ("powered", "false")]),
      (4, "minecraft:spruce_door",
        [("facing", "east"), ("half", "lower"), ("hinge", "right"), ("open", "true"),
         ("powered", "false")]),
      (5, "minecraft:spruce_door",
        [("facing", "south"), ("half", "lower"), ("hinge", "right"), ("open", "true"),
         ("powered", "false")]),
      (6, "minecraft:spruce_door",
        [("facing", "west"), ("half", "lower"), ("hinge", "right"), ("open", "true"),
         ("powered", "false")]),
      (7, "minecraft:spruce_door",
        [("facing", "north"), ("half", "lower"), ("hinge", "right"), ("open", "true"),
         ("powered", "false")]),
      (8, "minecraft:spruce_door",
        [("facing", "east"), ("half", "upper"), ("hinge", "left"), ("open", "false"),
         ("powered", "false")]),
      (9, "minecraft:spruce_door",
        [("facing", "east"), ("half", "upper"), ("hinge", "right"), ("open", "false"),
         ("powered", "false")]),
      (10, "minecraft:spruce_door",
        [("facing", "east"), ("half", "upper"), ("hinge", "left"), ("open", "false"),
         ("powered", "true")]),
      (11, "minecraft:spruce_door",
        [("facing", "east"), ("half", "upper"), ("hinge", "right"), ("open", "false"),
         ("powered", "true")])]⟩,
   ⟨194, "minecraft:birch_door",
     [(0, "minecraft:birch_door",
        [("facing", "east"), ("half", "lower"), ("hinge", "right"), ("open", "false"),
         ("powered", "false")]),
      (1, "minecraft:birch_door",
        [("facing", "south"), ("half", "lower"), ("hinge", "right"), ("open", "false"),
         ("powered", "false")]),
      (2, "minecraft:birch_door",
        [("facing", "west"), ("half", "lower"), ("hinge", "right"), ("open", "false"),
         ("powered", "false")]),
      (3, "minecraft:birch_door",
        [("facing", "north"), ("half", "lower"), ("hinge", "right"), ("open", "false"),
         ("powered", "false")]),
      (4, "minecraft:birch_door",
        [("facing", "east"), ("half", "lower"), ("hinge", "right"), ("open", "true"),
         ("powered", "false")]),
      (5, "minecraft:birch_door",
        [("facing", "south"), ("half", "lower"), ("hinge", "right"), ("open", "true"),
         ("powered", "false")]),
      (6, "minecraft:birch_door",
        [("facing", "west"), ("half", "lower"), ("hinge", "right"), ("open", "true"),
         ("powered", "false")]),
      (7, "minecraft:birch_door",
        [("facing", "north"), ("half", "lower"), ("hinge", "right"), ("open", "true"),
         ("powered", "false")]),
      (8, "minecraft:birch_door",
        [("facing", "east"), ("half", "upper"), ("hinge", "left"), ("open", "false"),
         ("powered", "false")]),
      (9, "minecraft:birch_door",
        [("facing", "east"), ("half", "upper"), ("hinge", "right"), ("open", "false"),
         ("powered", "false")]),
      (10, "minecraft:birch_door",
        [("facing", "east"), ("half", "upper"), ("hinge", "left"), ("open", "false"),
         ("powered", "true")]),
      (11, "minecraft:birch_door",
        [("facing", "east"), ("half", "upper"), ("hinge", "right"), ("open", "false"),
         ("powered", "true")])]⟩,
   ⟨195, "minecraft:jungle_door",
     [(0, "minecraft:jungle_door",
        [("facing", "east"), ("half", "lower"), ("hinge", "right"), ("open", "false"),
         ("powered", "false")]),
      (1, "minecraft:jungle_door",
        [("facing", "south"), ("half", "lower"), ("hinge", "right"), ("open", "false"),
         ("powered", "false")]),
      (2, "minecraft:jungle_door",
        [("facing", "west"), ("half", "lower"), ("hinge", "right"), ("open", "false"),
         ("powered", "false")]),
      (3, "minecraft:jungle_door",
        [("facing", "north"), ("half", "lower"), ("hinge", "right"), ("open", "false"),
         ("powered", "false")]),
      (4, "minecraft:jungle_door",
        [("facing", "east"), ("half", "lower"), ("hinge", "right"), ("open", "true"),
         ("powered", "false")]),
      (5, "minecraft:jungle_door",
        [("facing", "south"), ("half", "lower"), ("hinge", "right"), ("open", "true"),
         ("powered", "false")]),
      (6, "minecraft:jungle_door",
        [("facing", "west"), ("half", "lower"), ("hinge", "right"), ("open", "true"),
         ("powered", "false")]),
      (7, "minecraft:jungle_door",
        [("facing", "north"), ("half", "lower"), ("hinge", "right"), ("open", "true"),
         ("powered", "false")]),
      (8, "minecraft:jungle_door",
        [("facing", "east"), ("half", "upper"), ("hinge", "left"), ("open", "false"),
         ("powered", "false")]),
      (9, "minecraft:jungle_door",
        [("facing", "east"), ("half", "upper"), ("hinge", "right"), ("open", "false"),
         ("powered", "false")]),
      (10, "minecraft:jungle_door",
        [("facing", "east"), ("half", "upper"), ("hinge", "left"), ("open", "false"),
         ("powered", "true")]),
      (11, "minecraft:jungle_door",
        [("facing", "east"), ("half", "upper"), ("hinge", "right"), ("open", "false"),
         ("powered", "true")])]⟩,
   ⟨196, "minecraft:acacia_door",
     [(0, "minecraft:acacia_door",
        [("facing", "east"), ("half", "lower"), ("hinge", "right"), ("open", "false"),
         ("powered", "false")]),
      (1, "minecraft:acacia_door",
        [("facing", "south"), ("half", "lower"), ("hinge", "right"), ("open", "false"),
         ("powered", "false")]),
      (2, "minecraft:acacia_door",
        [("facing", "west"), ("half", "lower"), ("hinge", "right"), ("open", "false"),
         ("powered", "false")]),
      (3, "minecraft:acacia_door",
        [("facing", "north"), ("half", "lower"), ("hinge", "right"), ("open", "false"),
         ("powered", "false")]),
      (4, "minecraft:acacia_door",
        [("facing", "east"), ("half", "lower"), ("hinge", "right"), ("open", "true"),
         ("powered", "false")]),
      (5, "minecraft:acacia_door",
        [("facing", "south"), ("half", "lower"), ("hinge", "right"), ("open", "true"),
         ("powered", "false")]),
      (6, "minecraft:acacia_door",
        [("facing", "west"), ("half", "lower"), ("hinge", "right"), ("open", "true"),
         ("powered", "false")]),
      (7, "minecraft:acacia_door",
        [("facing", "north"), ("half", "lower"), ("hinge", "right"), ("open", "true"),
         ("powered", "false")]),
      (8, "minecraft:acacia_door",
        [("facing", "east"), ("half", "upper"), ("hinge", "left"), ("open", "false"),
         ("powered", "false")]),
      (9, "minecraft:acacia_door",
        [("facing", "east"), ("half", "upper"), ("hinge", "right"), ("open", "false"),
         ("powered", "false")]),
      (10, "minecraft:acacia_door",
        [("facing", "east"), ("half", "upper"), ("hinge", "left"), ("open", "false"),
         ("powered", "true")]),
      (11, "minecraft:acacia_door",
        [("facing", "east"), ("half", "upper"), ("hinge", "right"), ("open", "false"),
         ("powered", "true")])]⟩,
   ⟨197, "minecraft:dark_oak_door",
     [(0, "minecraft:dark_oak_door",
        [("facing", "east"), ("half", "lower"), ("hinge", "right"), ("open", "false"),
         ("powered", "false")]),
      (1, "minecraft:dark_oak_door",
        [("facing", "south"), ("half", "lower"), ("hinge", "right"), ("open", "false"),
         ("powered", "false")]),
      (2, "minecraft:dark_oak_door",
        [("facing", "west"), ("half", "lower"), ("hinge", "right"), ("open", "false"),
         ("powered", "false")]),
      (3, "minecraft:dark_oak_door",
        [("facing", "north"), ("half", "lower"), ("hinge", "right"), ("open", "false"),
         ("powered", "false")]),
      (4, "minecraft:dark_oak_door",
        [("facing", "east"), ("half", "lower"), ("hinge", "right"), ("open", "true"),
         ("powered", "false")]),
      (5, "minecraft:dark_oak_door",
        [("facing", "south"), ("half", "lower"), ("hinge", "right"), ("open", "true"),
         ("powered", "false")]),
      (6, "minecraft:dark_oak_door",
        [("facing", "west"), ("half", "lower"), ("hinge", "right"), ("open", "true"),
         ("powered", "false")]),
      (7, "minecraft:dark_oak_door",
        [("facing", "north"), ("half", "lower"), ("hinge", "right"), ("open", "true"),
         ("powered", "false")]),
      (8, "minecraft:dark_oak_door",
        [("facing", "east"), ("half", "upper"), ("hinge", "left"), ("open", "false"),
         ("powered", "false")]),
      (9, "minecraft:dark_oak_door",
        [("facing", "east"), ("half", "upper"), ("hinge", "right"), ("open", "false"),
         ("powered", "false")]),
      (10, "minecraft:dark_oak_door",
        [("facing", "east"), ("half", "upper"), ("hinge", "left"), ("open", "false"),
         ("powered", "true")]),
      (11, "minecraft:dark_oak_door",
        [("facing", "east"), ("half", "upper"), ("hinge", "right"), ("open", "false"),
         ("powered", "true")])]⟩,
   ⟨198, "minecraft:end_rod",
     [(0, "minecraft:end_rod", [("facing", "down")]),
      (1, "minecraft:end_rod", [("facing", "up")]),
      (2, "minecraft:end_rod", [("facing", "north")]),
      (3, "minecraft:end_rod", [("facing", "south")]),
      (4, "minecraft:end_rod", [("facing", "west")]),
      (5, "minecraft:end_rod", [("facing", "east")])]⟩,
   ⟨199, "minecraft:chorus_plant",
     [(0, "minecraft:chorus_plant",
        [("down", "false"), ("east", "false"), ("north", "false"), ("south", "false"),
         ("up", "false"), ("west", "false")])]⟩,
   ⟨200, "minecraft:chorus_flower",
     [(0, "minecraft:chorus_flower", [("age", "0")]),
      (1, "minecraft:chorus_flower", [("age", "1")]),
      (2, "minecraft:chorus_flower", [("age", "2")]),
      (3, "minecraft:chorus_flower", [("age", "3")]),
      (4, "minecraft:chorus_flower", [("age", "4")]),
      (5, "minecraft:chorus_flower", [("age", "5")])]⟩]

end Flattening.Legacy
