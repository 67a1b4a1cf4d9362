namespace TemplateAudit

/-- Emoji whose names start with `p`. -/
def emojiP : List (String × List Nat) :=
  [("p_button", [0x1F17F]), ("package", [0x1F4E6]), ("page_facing_up", [0x1F4C4]),
   ("page_with_curl", [0x1F4C3]), ("pager", [0x1F4DF]), ("paintbrush", [0x1F58C]),
   ("pakistan", [0x1F1F5, 0x1F1F0]), ("palau", [0x1F1F5, 0x1F1FC]),
   ("palestinian_territories", [0x1F1F5, 0x1F1F8]), ("palm_tree", [0x1F334]),
   ("palms_up_together", [0x1F932]), ("palms_up_together_dark_skin_tone", [0x1F932, 0x1F3FF]),
   ("palms_up_together_light_skin_tone", [0x1F932, 0x1F3FB]),
   ("palms_up_together_medium-dark_skin_tone", [0x1F932, 0x1F3FE]),
   ("palms_up_together_medium-light_skin_tone", [0x1F932, 0x1F3FC]),
   ("palms_up_together_medium_skin_tone", [0x1F932, 0x1F3FD]), ("panama", [0x1F1F5, 0x1F1E6]),
   ("pancakes", [0x1F95E]), ("panda_face", [0x1F43C]), ("paperclip", [0x1F4CE]),
   ("papua_new_guinea", [0x1F1F5, 0x1F1EC]), ("paraguay", [0x1F1F5, 0x1F1FE]),
   ("parking", [0x1F17F]), ("parrot", [0x1F99C]), ("part_alternation_mark", [0x303D]),
   ("partly_sunny", [0x26C5]), ("party_popper", [0x1F389]), ("partying_face", [0x1F973]),
   ("passenger_ship", [0x1F6F3]), ("passport_control", [0x1F6C2]), ("pause_button", [0x23F8]),
   ("paw_prints", [0x1F43E]), ("peace_symbol", [0x262E]), ("peach", [0x1F351]),
   ("peacock", [0x1F99A]), ("peanuts", [0x1F95C]), ("pear", [0x1F350]), ("pen", [0x1F58A]),
   ("pencil", [0x1F4DD]), ("pencil2", [0x270F]), ("penguin", [0x1F427]), ("pensive", [0x1F614]),
   ("pensive_face", [0x1F614]),
   ("people_holding_hands", [0x1F9D1, 0x200D, 0x1F91D, 0x200D, 0x1F9D1]),
   ("people_with_bunny_ears", [0x1F46F]), ("people_wrestling", [0x1F93C]),
   ("performing_arts", [0x1F3AD]), ("persevere", [0x1F623]), ("persevering_face", [0x1F623]),
   ("person_biking", [0x1F6B4]), ("person_biking_dark_skin_tone", [0x1F6B4, 0x1F3FF]),
   ("person_biking_light_skin_tone", [0x1F6B4, 0x1F3FB]),
   ("person_biking_medium-dark_skin_tone", [0x1F6B4, 0x1F3FE]),
   ("person_biking_medium-light_skin_tone", [0x1F6B4, 0x1F3FC]),
   ("person_biking_medium_skin_tone", [0x1F6B4, 0x1F3FD]), ("person_bouncing_ball", [0x26F9]),
   ("person_bouncing_ball_dark_skin_tone", [0x26F9, 0x1F3FF]),
   ("person_bouncing_ball_light_skin_tone", [0x26F9, 0x1F3FB]),
   ("person_bouncing_ball_medium-dark_skin_tone", [0x26F9, 0x1F3FE]),
   ("person_bouncing_ball_medium-light_skin_tone", [0x26F9, 0x1F3FC]),
   ("person_bouncing_ball_medium_skin_tone", [0x26F9, 0x1F3FD]), ("person_bowing", [0x1F647]),
   ("person_bowing_dark_skin_tone", [0x1F647, 0x1F3FF]),
   ("person_bowing_light_skin_tone", [0x1F647, 0x1F3FB]),
   ("person_bowing_medium-dark_skin_tone", [0x1F647, 0x1F3FE]),
   ("person_bowing_medium-light_skin_tone", [0x1F647, 0x1F3FC]),
   ("person_bowing_medium_skin_tone", [0x1F647, 0x1F3FD]), ("person_cartwheeling", [0x1F938]),
   ("person_cartwheeling_dark_skin_tone", [0x1F938, 0x1F3FF]),
   ("person_cartwheeling_light_skin_tone", [0x1F938, 0x1F3FB]),
   ("person_cartwheeling_medium-dark_skin_tone", [0x1F938, 0x1F3FE]),
   ("person_cartwheeling_medium-light_skin_tone", [0x1F938, 0x1F3FC]),
   ("person_cartwheeling_medium_skin_tone", [0x1F938, 0x1F3FD]), ("person_climbing", [0x1F9D7]),
   ("person_climbing_dark_skin_tone", [0x1F9D7, 0x1F3FF]),
   ("person_climbing_light_skin_tone", [0x1F9D7, 0x1F3FB]),
   ("person_climbing_medium-dark_skin_tone", [0x1F9D7, 0x1F3FE]),
   ("person_climbing_medium-light_skin_tone", [0x1F9D7, 0x1F3FC]),
   ("person_climbing_medium_skin_tone", [0x1F9D7, 0x1F3FD]), ("person_facepalming", [0x1F926]),
   ("person_facepalming_dark_skin_tone", [0x1F926, 0x1F3FF]),
   ("person_facepalming_light_skin_tone", [0x1F926, 0x1F3FB]),
   ("person_facepalming_medium-dark_skin_tone", [0x1F926, 0x1F3FE]),
   ("person_facepalming_medium-light_skin_tone", [0x1F926, 0x1F3FC]),
   ("person_facepalming_medium_skin_tone", [0x1F926, 0x1F3FD]), ("person_fencing", [0x1F93A]),
   ("person_frowning", [0x1F64D]), ("person_frowning_dark_skin_tone", [0x1F64D, 0x1F3FF]),
   ("person_frowning_light_skin_tone", [0x1F64D, 0x1F3FB]),
   ("person_frowning_medium-dark_skin_tone", [0x1F64D, 0x1F3FE]),
   ("person_frowning_medium-light_skin_tone", [0x1F64D, 0x1F3FC]),
   ("person_frowning_medium_skin_tone", [0x1F64D, 0x1F3FD]), ("person_gesturing_no", [0x1F645]),
   ("person_gesturing_no_dark_skin_tone", [0x1F645, 0x1F3FF]),
   ("person_gesturing_no_light_skin_tone", [0x1F645, 0x1F3FB]),
   ("person_gesturing_no_medium-dark_skin_tone", [0x1F645, 0x1F3FE]),
   ("person_gesturing_no_medium-light_skin_tone", [0x1F645, 0x1F3FC]),
   ("person_gesturing_no_medium_skin_tone", [0x1F645, 0x1F3FD]), ("person_gesturing_ok", [0x1F646]),
   ("person_gesturing_ok_dark_skin_tone", [0x1F646, 0x1F3FF]),
   ("person_gesturing_ok_light_skin_tone", [0x1F646, 0x1F3FB]),
   ("person_gesturing_ok_medium-dark_skin_tone", [0x1F646, 0x1F3FE]),
   ("person_gesturing_ok_medium-light_skin_tone", [0x1F646, 0x1F3FC]),
   ("person_gesturing_ok_medium_skin_tone", [0x1F646, 0x1F3FD]),
   ("person_getting_haircut", [0x1F487]),
   ("person_getting_haircut_dark_skin_tone", [0x1F487, 0x1F3FF]),
   ("person_getting_haircut_light_skin_tone", [0x1F487, 0x1F3FB]),
   ("person_getting_haircut_medium-dark_skin_tone", [0x1F487, 0x1F3FE]),
   ("person_getting_haircut_medium-light_skin_tone", [0x1F487, 0x1F3FC]),
   ("person_getting_haircut_medium_skin_tone", [0x1F487, 0x1F3FD]),
   ("person_getting_massage", [0x1F486]),
   ("person_getting_massage_dark_skin_tone", [0x1F486, 0x1F3FF]),
   ("person_getting_massage_light_skin_tone", [0x1F486, 0x1F3FB]),
   ("person_getting_massage_medium-dark_skin_tone", [0x1F486, 0x1F3FE]),
   ("person_getting_massage_medium-light_skin_tone", [0x1F486, 0x1F3FC]),
   ("person_getting_massage_medium_skin_tone", [0x1F486, 0x1F3FD]), ("person_golfing", [0x1F3CC]),
   ("person_golfing_dark_skin_tone", [0x1F3CC, 0x1F3FF]),
   ("person_golfing_light_skin_tone", [0x1F3CC, 0x1F3FB]),
   ("person_golfing_medium-dark_skin_tone", [0x1F3CC, 0x1F3FE]),
   ("person_golfing_medium-light_skin_tone", [0x1F3CC, 0x1F3FC]),
   ("person_golfing_medium_skin_tone", [0x1F3CC, 0x1F3FD]), ("person_in_bed", [0x1F6CC]),
   ("person_in_bed_dark_skin_tone", [0x1F6CC, 0x1F3FF]),
   ("person_in_bed_light_skin_tone", [0x1F6CC, 0x1F3FB]),
   ("person_in_bed_medium-dark_skin_tone", [0x1F6CC, 0x1F3FE]),
   ("person_in_bed_medium-light_skin_tone", [0x1F6CC, 0x1F3FC]),
   ("person_in_bed_medium_skin_tone", [0x1F6CC, 0x1F3FD]), ("person_in_lotus_position", [0x1F9D8]),
   ("person_in_lotus_position_dark_skin_tone", [0x1F9D8, 0x1F3FF]),
   ("person_in_lotus_position_light_skin_tone", [0x1F9D8, 0x1F3FB]),
   ("person_in_lotus_position_medium-dark_skin_tone", [0x1F9D8, 0x1F3FE]),
   ("person_in_lotus_position_medium-light_skin_tone", [0x1F9D8, 0x1F3FC]),
   ("person_in_lotus_position_medium_skin_tone", [0x1F9D8, 0x1F3FD]),
   ("person_in_steamy_room", [0x1F9D6]),
   ("person_in_steamy_room_dark_skin_tone", [0x1F9D6, 0x1F3FF]),
   ("person_in_steamy_room_light_skin_tone", [0x1F9D6, 0x1F3FB]),
   ("person_in_steamy_room_medium-dark_skin_tone", [0x1F9D6, 0x1F3FE]),
   ("person_in_steamy_room_medium-light_skin_tone", [0x1F9D6, 0x1F3FC]),
   ("person_in_steamy_room_medium_skin_tone", [0x1F9D6, 0x1F3FD]), ("person_juggling", [0x1F939]),
   ("person_juggling_dark_skin_tone", [0x1F939, 0x1F3FF]),
   ("person_juggling_light_skin_tone", [0x1F939, 0x1F3FB]),
   ("person_juggling_medium-dark_skin_tone", [0x1F939, 0x1F3FE]),
   ("person_juggling_medium-light_skin_tone", [0x1F939, 0x1F3FC]),
   ("person_juggling_medium_skin_tone", [0x1F939, 0x1F3FD]), ("person_kneeling", [0x1F9CE]),
   ("person_lifting_weights", [0x1F3CB]),
   ("person_lifting_weights_dark_skin_tone", [0x1F3CB, 0x1F3FF]),
   ("person_lifting_weights_light_skin_tone", [0x1F3CB, 0x1F3FB]),
   ("person_lifting_weights_medium-dark_skin_tone", [0x1F3CB, 0x1F3FE]),
   ("person_lifting_weights_medium-light_skin_tone", [0x1F3CB, 0x1F3FC]),
   ("person_lifting_weights_medium_skin_tone", [0x1F3CB, 0x1F3FD]),
   ("person_mountain_biking", [0x1F6B5]),
   ("person_mountain_biking_dark_skin_tone", [0x1F6B5, 0x1F3FF]),
   ("person_mountain_biking_light_skin_tone", [0x1F6B5, 0x1F3FB]),
   ("person_mountain_biking_medium-dark_skin_tone", [0x1F6B5, 0x1F3FE]),
   ("person_mountain_biking_medium-light_skin_tone", [0x1F6B5, 0x1F3FC]),
   ("person_mountain_biking_medium_skin_tone", [0x1F6B5, 0x1F3FD]),
   ("person_playing_handball", [0x1F93E]),
   ("person_playing_handball_dark_skin_tone", [0x1F93E, 0x1F3FF]),
   ("person_playing_handball_light_skin_tone", [0x1F93E, 0x1F3FB]),
   ("person_playing_handball_medium-dark_skin_tone", [0x1F93E, 0x1F3FE]),
   ("person_playing_handball_medium-light_skin_tone", [0x1F93E, 0x1F3FC]),
   ("person_playing_handball_medium_skin_tone", [0x1F93E, 0x1F3FD]),
   ("person_playing_water_polo", [0x1F93D]),
   ("person_playing_water_polo_dark_skin_tone", [0x1F93D, 0x1F3FF]),
   ("person_playing_water_polo_light_skin_tone", [0x1F93D, 0x1F3FB]),
   ("person_playing_water_polo_medium-dark_skin_tone", [0x1F93D, 0x1F3FE]),
   ("person_playing_water_polo_medium-light_skin_tone", [0x1F93D, 0x1F3FC]),
   ("person_playing_water_polo_medium_skin_tone", [0x1F93D, 0x1F3FD]),
   ("person_pouting", [0x1F64E]), ("person_pouting_dark_skin_tone", [0x1F64E, 0x1F3FF]),
   ("person_pouting_light_skin_tone", [0x1F64E, 0x1F3FB]),
   ("person_pouting_medium-dark_skin_tone", [0x1F64E, 0x1F3FE]),
   ("person_pouting_medium-light_skin_tone", [0x1F64E, 0x1F3FC]),
   ("person_pouting_medium_skin_tone", [0x1F64E, 0x1F3FD]), ("person_raising_hand", [0x1F64B]),
   ("person_raising_hand_dark_skin_tone", [0x1F64B, 0x1F3FF]),
   ("person_raising_hand_light_skin_tone", [0x1F64B, 0x1F3FB]),
   ("person_raising_hand_medium-dark_skin_tone", [0x1F64B, 0x1F3FE]),
   ("person_raising_hand_medium-light_skin_tone", [0x1F64B, 0x1F3FC]),
   ("person_raising_hand_medium_skin_tone", [0x1F64B, 0x1F3FD]), ("person_rowing_boat", [0x1F6A3]),
   ("person_rowing_boat_dark_skin_tone", [0x1F6A3, 0x1F3FF]),
   ("person_rowing_boat_light_skin_tone", [0x1F6A3, 0x1F3FB]),
   ("person_rowing_boat_medium-dark_skin_tone", [0x1F6A3, 0x1F3FE]),
   ("person_rowing_boat_medium-light_skin_tone", [0x1F6A3, 0x1F3FC]),
   ("person_rowing_boat_medium_skin_tone", [0x1F6A3, 0x1F3FD]), ("person_running", [0x1F3C3]),
   ("person_running_dark_skin_tone", [0x1F3C3, 0x1F3FF]),
   ("person_running_light_skin_tone", [0x1F3C3, 0x1F3FB]),
   ("person_running_medium-dark_skin_tone", [0x1F3C3, 0x1F3FE]),
   ("person_running_medium-light_skin_tone", [0x1F3C3, 0x1F3FC]),
   ("person_running_medium_skin_tone", [0x1F3C3, 0x1F3FD]), ("person_shrugging", [0x1F937]),
   ("person_shrugging_dark_skin_tone", [0x1F937, 0x1F3FF]),
   ("person_shrugging_light_skin_tone", [0x1F937, 0x1F3FB]),
   ("person_shrugging_medium-dark_skin_tone", [0x1F937, 0x1F3FE]),
   ("person_shrugging_medium-light_skin_tone", [0x1F937, 0x1F3FC]),
   ("person_shrugging_medium_skin_tone", [0x1F937, 0x1F3FD]), ("person_standing", [0x1F9CD]),
   ("person_surfing", [0x1F3C4]), ("person_surfing_dark_skin_tone", [0x1F3C4, 0x1F3FF]),
   ("person_surfing_light_skin_tone", [0x1F3C4, 0x1F3FB]),
   ("person_surfing_medium-dark_skin_tone", [0x1F3C4, 0x1F3FE]),
   ("person_surfing_medium-light_skin_tone", [0x1F3C4, 0x1F3FC]),
   ("person_surfing_medium_skin_tone", [0x1F3C4, 0x1F3FD]), ("person_swimming", [0x1F3CA]),
   ("person_swimming_dark_skin_tone", [0x1F3CA, 0x1F3FF]),
   ("person_swimming_light_skin_tone", [0x1F3CA, 0x1F3FB]),
   ("person_swimming_medium-dark_skin_tone", [0x1F3CA, 0x1F3FE]),
   ("person_swimming_medium-light_skin_tone", [0x1F3CA, 0x1F3FC]),
   ("person_swimming_medium_skin_tone", [0x1F3CA, 0x1F3FD]), ("person_taking_bath", [0x1F6C0]),
   ("person_taking_bath_dark_skin_tone", [0x1F6C0, 0x1F3FF]),
   ("person_taking_bath_light_skin_tone", [0x1F6C0, 0x1F3FB]),
   ("person_taking_bath_medium-dark_skin_tone", [0x1F6C0, 0x1F3FE]),
   ("person_taking_bath_medium-light_skin_tone", [0x1F6C0, 0x1F3FC]),
   ("person_taking_bath_medium_skin_tone", [0x1F6C0, 0x1F3FD]), ("person_tipping_hand", [0x1F481]),
   ("person_tipping_hand_dark_skin_tone", [0x1F481, 0x1F3FF]),
   ("person_tipping_hand_light_skin_tone", [0x1F481, 0x1F3FB]),
   ("person_tipping_hand_medium-dark_skin_tone", [0x1F481, 0x1F3FE]),
   ("person_tipping_hand_medium-light_skin_tone", [0x1F481, 0x1F3FC]),
   ("person_tipping_hand_medium_skin_tone", [0x1F481, 0x1F3FD]), ("person_walking", [0x1F6B6]),
   ("person_walking_dark_skin_tone", [0x1F6B6, 0x1F3FF]),
   ("person_walking_light_skin_tone", [0x1F6B6, 0x1F3FB]),
   ("person_walking_medium-dark_skin_tone", [0x1F6B6, 0x1F3FE]),
   ("person_walking_medium-light_skin_tone", [0x1F6B6, 0x1F3FC]),
   ("person_walking_medium_skin_tone", [0x1F6B6, 0x1F3FD]), ("person_wearing_turban", [0x1F473]),
   ("person_wearing_turban_dark_skin_tone", [0x1F473, 0x1F3FF]),
   ("person_wearing_turban_light_skin_tone", [0x1F473, 0x1F3FB]),
   ("person_wearing_turban_medium-dark_skin_tone", [0x1F473, 0x1F3FE]),
   ("person_wearing_turban_medium-light_skin_tone", [0x1F473, 0x1F3FC]),
   ("person_wearing_turban_medium_skin_tone", [0x1F473, 0x1F3FD]), ("person_with_ball", [0x26F9]),
   ("person_with_blond_hair", [0x1F471]), ("person_with_pouting_face", [0x1F64E]),
   ("peru", [0x1F1F5, 0x1F1EA]), ("petri_dish", [0x1F9EB]), ("philippines", [0x1F1F5, 0x1F1ED]),
   ("phone", [0x260E]), ("pick", [0x26CF]), ("pie", [0x1F967]), ("pig", [0x1F437]),
   ("pig2", [0x1F416]), ("pig_face", [0x1F437]), ("pig_nose", [0x1F43D]),
   ("pile_of_poo", [0x1F4A9]), ("pill", [0x1F48A]), ("pinching_hand", [0x1F90F]),
   ("pine_decoration", [0x1F38D]), ("pineapple", [0x1F34D]), ("ping_pong", [0x1F3D3]),
   ("pirate_flag", [0x1F3F4, 0x200D, 0x2620, 0xFE0F]), ("pisces", [0x2653]), ("pistol", [0x1F52B]),
   ("pitcairn_islands", [0x1F1F5, 0x1F1F3]), ("pizza", [0x1F355]), ("place_of_worship", [0x1F6D0]),
   ("play_button", [0x25B6]), ("play_or_pause_button", [0x23EF]), ("pleading_face", [0x1F97A]),
   ("point_down", [0x1F447]), ("point_left", [0x1F448]), ("point_right", [0x1F449]),
   ("point_up", [0x261D]), ("point_up_2", [0x1F446]), ("poland", [0x1F1F5, 0x1F1F1]),
   ("police_car", [0x1F693]), ("police_car_light", [0x1F6A8]), ("police_officer", [0x1F46E]),
   ("police_officer_dark_skin_tone", [0x1F46E, 0x1F3FF]),
   ("police_officer_light_skin_tone", [0x1F46E, 0x1F3FB]),
   ("police_officer_medium-dark_skin_tone", [0x1F46E, 0x1F3FE]),
   ("police_officer_medium-light_skin_tone", [0x1F46E, 0x1F3FC]),
   ("police_officer_medium_skin_tone", [0x1F46E, 0x1F3FD]), ("poodle", [0x1F429]),
   ("pool_8_ball", [0x1F3B1]), ("poop", [0x1F4A9]), ("popcorn", [0x1F37F]),
   ("portugal", [0x1F1F5, 0x1F1F9]), ("post_office", [0x1F3E3]), ("postal_horn", [0x1F4EF]),
   ("postbox", [0x1F4EE]), ("pot_of_food", [0x1F372]), ("potable_water", [0x1F6B0]),
   ("potato", [0x1F954]), ("pouch", [0x1F45D]), ("poultry_leg", [0x1F357]), ("pound", [0x1F4B7]),
   ("pound_banknote", [0x1F4B7]), ("pouting_cat", [0x1F63E]), ("pouting_cat_face", [0x1F63E]),
   ("pouting_face", [0x1F621]), ("pray", [0x1F64F]), ("prayer_beads", [0x1F4FF]),
   ("pregnant_woman", [0x1F930]), ("pregnant_woman_dark_skin_tone", [0x1F930, 0x1F3FF]),
   ("pregnant_woman_light_skin_tone", [0x1F930, 0x1F3FB]),
   ("pregnant_woman_medium-dark_skin_tone", [0x1F930, 0x1F3FE]),
   ("pregnant_woman_medium-light_skin_tone", [0x1F930, 0x1F3FC]),
   ("pregnant_woman_medium_skin_tone", [0x1F930, 0x1F3FD]), ("pretzel", [0x1F968]),
   ("prince", [0x1F934]), ("prince_dark_skin_tone", [0x1F934, 0x1F3FF]),
   ("prince_light_skin_tone", [0x1F934, 0x1F3FB]),
   ("prince_medium-dark_skin_tone", [0x1F934, 0x1F3FE]),
   ("prince_medium-light_skin_tone", [0x1F934, 0x1F3FC]),
   ("prince_medium_skin_tone", [0x1F934, 0x1F3FD]), ("princess", [0x1F478]),
   ("princess_dark_skin_tone", [0x1F478, 0x1F3FF]),
   ("princess_light_skin_tone", [0x1F478, 0x1F3FB]),
   ("princess_medium-dark_skin_tone", [0x1F478, 0x1F3FE]),
   ("princess_medium-light_skin_tone", [0x1F478, 0x1F3FC]),
   ("princess_medium_skin_tone", [0x1F478, 0x1F3FD]), ("printer", [0x1F5A8]),
   ("probing_cane", [0x1F9AF]), ("prohibited", [0x1F6AB]), ("puerto_rico", [0x1F1F5, 0x1F1F7]),
   ("punch", [0x1F44A]), ("purple_circle", [0x1F7E3]), ("purple_heart", [0x1F49C]),
   ("purple_square", [0x1F7EA]), ("purse", [0x1F45B]), ("pushpin", [0x1F4CC]),
   ("put_litter_in_its_place", [0x1F6AE])]

/-- Emoji whose names start with `q`. -/
def emojiQ : List (String × List Nat) :=
  [("qatar", [0x1F1F6, 0x1F1E6]), ("question", [0x2753]), ("question_mark", [0x2753])]

/-- Emoji whose names start with `r`. -/
def emojiR : List (String × List Nat) :=
  [("rabbit", [0x1F430]), ("rabbit2", [0x1F407]), ("rabbit_face", [0x1F430]),
   ("raccoon", [0x1F99D]), ("racehorse", [0x1F40E]), ("racing_car", [0x1F3CE]),
   ("racing_motorcycle", [0x1F3CD]), ("radio", [0x1F4FB]), ("radio_button", [0x1F518]),
   ("radioactive", [0x2622]), ("radioactive_sign", [0x2622]), ("rage", [0x1F621]),
   ("railway_car", [0x1F683]), ("railway_track", [0x1F6E4]), ("rainbow", [0x1F308]),
   ("rainbow_flag", [0x1F3F3, 0xFE0F, 0x200D, 0x1F308]), ("raised_back_of_hand", [0x1F91A]),
   ("raised_back_of_hand_dark_skin_tone", [0x1F91A, 0x1F3FF]),
   ("raised_back_of_hand_light_skin_tone", [0x1F91A, 0x1F3FB]),
   ("raised_back_of_hand_medium-dark_skin_tone", [0x1F91A, 0x1F3FE]),
   ("raised_back_of_hand_medium-light_skin_tone", [0x1F91A, 0x1F3FC]),
   ("raised_back_of_hand_medium_skin_tone", [0x1F91A, 0x1F3FD]), ("raised_fist", [0x270A]),
   ("raised_fist_dark_skin_tone", [0x270A, 0x1F3FF]),
   ("raised_fist_light_skin_tone", [0x270A, 0x1F3FB]),
   ("raised_fist_medium-dark_skin_tone", [0x270A, 0x1F3FE]),
   ("raised_fist_medium-light_skin_tone", [0x270A, 0x1F3FC]),
   ("raised_fist_medium_skin_tone", [0x270A, 0x1F3FD]), ("raised_hand", [0x270B]),
   ("raised_hand_dark_skin_tone", [0x270B, 0x1F3FF]),
   ("raised_hand_light_skin_tone", [0x270B, 0x1F3FB]),
   ("raised_hand_medium-dark_skin_tone", [0x270B, 0x1F3FE]),
   ("raised_hand_medium-light_skin_tone", [0x270B, 0x1F3FC]),
   ("raised_hand_medium_skin_tone", [0x270B, 0x1F3FD]),
   ("raised_hand_with_fingers_splayed", [0x1F590]),
   ("raised_hand_with_part_between_middle_and_ring_fingers", [0x1F596]),
   ("raised_hands", [0x1F64C]), ("raising_hand", [0x1F64B]), ("raising_hands", [0x1F64C]),
   ("raising_hands_dark_skin_tone", [0x1F64C, 0x1F3FF]),
   ("raising_hands_light_skin_tone", [0x1F64C, 0x1F3FB]),
   ("raising_hands_medium-dark_skin_tone", [0x1F64C, 0x1F3FE]),
   ("raising_hands_medium-light_skin_tone", [0x1F64C, 0x1F3FC]),
   ("raising_hands_medium_skin_tone", [0x1F64C, 0x1F3FD]), ("ram", [0x1F40F]), ("ramen", [0x1F35C]),
   ("rat", [0x1F400]), ("razor", [0x1FA92]), ("receipt", [0x1F9FE]), ("record_button", [0x23FA]),
   ("recycle", [0x267B]), ("recycling_symbol", [0x267B]),
   ("red-haired_man", [0x1F468, 0x200D, 0x1F9B0]), ("red-haired_woman", [0x1F469, 0x200D, 0x1F9B0]),
   ("red_apple", [0x1F34E]), ("red_car", [0x1F697]), ("red_circle", [0x1F534]),
   ("red_envelope", [0x1F9E7]), ("red_hair", [0x1F9B0]), ("red_heart", [0x2764]),
   ("red_paper_lantern", [0x1F3EE]), ("red_square", [0x1F7E5]),
   ("red_triangle_pointed_down", [0x1F53B]), ("red_triangle_pointed_up", [0x1F53A]),
   ("regional_indicator_a", [0x1F1E6]), ("regional_indicator_b", [0x1F1E7]),
   ("regional_indicator_c", [0x1F1E8]), ("regional_indicator_d", [0x1F1E9]),
   ("regional_indicator_e", [0x1F1EA]), ("regional_indicator_f", [0x1F1EB]),
   ("regional_indicator_g", [0x1F1EC]), ("regional_indicator_h", [0x1F1ED]),
   ("regional_indicator_i", [0x1F1EE]), ("regional_indicator_j", [0x1F1EF]),
   ("regional_indicator_k", [0x1F1F0]), ("regional_indicator_l", [0x1F1F1]),
   ("regional_indicator_m", [0x1F1F2]), ("regional_indicator_n", [0x1F1F3]),
   ("regional_indicator_o", [0x1F1F4]), ("regional_indicator_p", [0x1F1F5]),
   ("regional_indicator_q", [0x1F1F6]), ("regional_indicator_r", [0x1F1F7]),
   ("regional_indicator_s", [0x1F1F8]), ("regional_indicator_symbol_letter_a", [0x1F1E6]),
   ("regional_indicator_symbol_letter_b", [0x1F1E7]),
   ("regional_indicator_symbol_letter_c", [0x1F1E8]),
   ("regional_indicator_symbol_letter_d", [0x1F1E9]),
   ("regional_indicator_symbol_letter_e", [0x1F1EA]),
   ("regional_indicator_symbol_letter_f", [0x1F1EB]),
   ("regional_indicator_symbol_letter_g", [0x1F1EC]),
   ("regional_indicator_symbol_letter_h", [0x1F1ED]),
   ("regional_indicator_symbol_letter_i", [0x1F1EE]),
   ("regional_indicator_symbol_letter_j", [0x1F1EF]),
   ("regional_indicator_symbol_letter_k", [0x1F1F0]),
   ("regional_indicator_symbol_letter_l", [0x1F1F1]),
   ("regional_indicator_symbol_letter_m", [0x1F1F2]),
   ("regional_indicator_symbol_letter_n", [0x1F1F3]),
   ("regional_indicator_symbol_letter_o", [0x1F1F4]),
   ("regional_indicator_symbol_letter_p", [0x1F1F5]),
   ("regional_indicator_symbol_letter_q", [0x1F1F6]),
   ("regional_indicator_symbol_letter_r", [0x1F1F7]),
   ("regional_indicator_symbol_letter_s", [0x1F1F8]),
   ("regional_indicator_symbol_letter_t", [0x1F1F9]),
   ("regional_indicator_symbol_letter_u", [0x1F1FA]),
   ("regional_indicator_symbol_letter_v", [0x1F1FB]),
   ("regional_indicator_symbol_letter_w", [0x1F1FC]),
   ("regional_indicator_symbol_letter_x", [0x1F1FD]),
   ("regional_indicator_symbol_letter_y", [0x1F1FE]),
   ("regional_indicator_symbol_letter_z", [0x1F1FF]), ("regional_indicator_t", [0x1F1F9]),
   ("regional_indicator_u", [0x1F1FA]), ("regional_indicator_v", [0x1F1FB]),
   ("regional_indicator_w", [0x1F1FC]), ("regional_indicator_x", [0x1F1FD]),
   ("regional_indicator_y", [0x1F1FE]), ("regional_indicator_z", [0x1F1FF]), ("registered", [0xAE]),
   ("relaxed", [0x263A]), ("relieved", [0x1F60C]), ("relieved_face", [0x1F60C]),
   ("reminder_ribbon", [0x1F397]), ("repeat", [0x1F501]), ("repeat_button", [0x1F501]),
   ("repeat_one", [0x1F502]), ("repeat_single_button", [0x1F502]),
   ("rescue_worker’s_helmet", [0x26D1]), ("restroom", [0x1F6BB]), ("reverse_button", [0x25C0]),
   ("reversed_hand_with_middle_finger_extended", [0x1F595]), ("revolving_hearts", [0x1F49E]),
   ("rewind", [0x23EA]), ("rhinoceros", [0x1F98F]), ("ribbon", [0x1F380]), ("rice", [0x1F35A]),
   ("rice_ball", [0x1F359]), ("rice_cracker", [0x1F358]), ("rice_scene", [0x1F391]),
   ("right-facing_fist", [0x1F91C]), ("right-facing_fist_dark_skin_tone", [0x1F91C, 0x1F3FF]),
   ("right-facing_fist_light_skin_tone", [0x1F91C, 0x1F3FB]),
   ("right-facing_fist_medium-dark_skin_tone", [0x1F91C, 0x1F3FE]),
   ("right-facing_fist_medium-light_skin_tone", [0x1F91C, 0x1F3FC]),
   ("right-facing_fist_medium_skin_tone", [0x1F91C, 0x1F3FD]), ("right_anger_bubble", [0x1F5EF]),
   ("right_arrow", [0x27A1]), ("right_arrow_curving_down", [0x2935]),
   ("right_arrow_curving_left", [0x21A9]), ("right_arrow_curving_up", [0x2934]),
   ("ring", [0x1F48D]), ("ringed_planet", [0x1FA90]), ("roasted_sweet_potato", [0x1F360]),
   ("robot", [0x1F916]), ("robot_face", [0x1F916]), ("rocket", [0x1F680]),
   ("roll_of_paper", [0x1F9FB]), ("rolled-up_newspaper", [0x1F5DE]),
   ("rolled__up_newspaper", [0x1F5DE]), ("roller_coaster", [0x1F3A2]),
   ("rolling_on_the_floor_laughing", [0x1F923]), ("romania", [0x1F1F7, 0x1F1F4]),
   ("rooster", [0x1F413]), ("rose", [0x1F339]), ("rosette", [0x1F3F5]),
   ("rotating_light", [0x1F6A8]), ("round_pushpin", [0x1F4CD]), ("rowboat", [0x1F6A3]),
   ("rugby_football", [0x1F3C9]), ("runner", [0x1F3C3]), ("running", [0x1F3C3]),
   ("running_shirt", [0x1F3BD]), ("running_shirt_with_sash", [0x1F3BD]),
   ("running_shoe", [0x1F45F]), ("russia", [0x1F1F7, 0x1F1FA]), ("rwanda", [0x1F1F7, 0x1F1FC]),
   ("réunion", [0x1F1F7, 0x1F1EA])]

/-- Emoji whose names start with `s`. -/
def emojiS : List (String × List Nat) :=
  [("sa", [0x1F202]), ("sad_but_relieved_face", [0x1F625]), ("safety_pin", [0x1F9F7]),
   ("safety_vest", [0x1F9BA]), ("sagittarius", [0x2650]), ("sailboat", [0x26F5]),
   ("sake", [0x1F376]), ("salt", [0x1F9C2]), ("samoa", [0x1F1FC, 0x1F1F8]),
   ("san_marino", [0x1F1F8, 0x1F1F2]), ("sandal", [0x1F461]), ("sandwich", [0x1F96A]),
   ("santa", [0x1F385]), ("santa_claus", [0x1F385]),
   ("santa_claus_dark_skin_tone", [0x1F385, 0x1F3FF]),
   ("santa_claus_light_skin_tone", [0x1F385, 0x1F3FB]),
   ("santa_claus_medium-dark_skin_tone", [0x1F385, 0x1F3FE]),
   ("santa_claus_medium-light_skin_tone", [0x1F385, 0x1F3FC]),
   ("santa_claus_medium_skin_tone", [0x1F385, 0x1F3FD]), ("sari", [0x1F97B]),
   ("satellite", [0x1F4E1]), ("satellite_antenna", [0x1F4E1]), ("satisfied", [0x1F606]),
   ("saudi_arabia", [0x1F1F8, 0x1F1E6]), ("sauropod", [0x1F995]), ("saxophone", [0x1F3B7]),
   ("scales", [0x2696]), ("scarf", [0x1F9E3]), ("school", [0x1F3EB]),
   ("school_backpack", [0x1F392]), ("school_satchel", [0x1F392]), ("scissors", [0x2702]),
   ("scorpio", [0x264F]), ("scorpion", [0x1F982]), ("scorpius", [0x264F]),
   ("scotland", [0x1F3F4, 0xE0067, 0xE0062, 0xE0073, 0xE0063, 0xE0074, 0xE007F]),
   ("scream", [0x1F631]), ("scream_cat", [0x1F640]), ("scroll", [0x1F4DC]), ("seat", [0x1F4BA]),
   ("secret", [0x3299]), ("see-no-evil_monkey", [0x1F648]), ("see_no_evil", [0x1F648]),
   ("seedling", [0x1F331]), ("selfie", [0x1F933]), ("selfie_dark_skin_tone", [0x1F933, 0x1F3FF]),
   ("selfie_light_skin_tone", [0x1F933, 0x1F3FB]),
   ("selfie_medium-dark_skin_tone", [0x1F933, 0x1F3FE]),
   ("selfie_medium-light_skin_tone", [0x1F933, 0x1F3FC]),
   ("selfie_medium_skin_tone", [0x1F933, 0x1F3FD]), ("senegal", [0x1F1F8, 0x1F1F3]),
   ("serbia", [0x1F1F7, 0x1F1F8]), ("service_dog", [0x1F415, 0x200D, 0x1F9BA]),
   ("seven", [0x37, 0xFE0F, 0x20E3]), ("seven-thirty", [0x1F562]), ("seven_o’clock", [0x1F556]),
   ("seychelles", [0x1F1F8, 0x1F1E8]), ("shallow_pan_of_food", [0x1F958]), ("shamrock", [0x2618]),
   ("shark", [0x1F988]), ("shaved_ice", [0x1F367]), ("sheaf_of_rice", [0x1F33E]),
   ("sheep", [0x1F411]), ("shell", [0x1F41A]), ("shield", [0x1F6E1]), ("shinto_shrine", [0x26E9]),
   ("ship", [0x1F6A2]), ("shirt", [0x1F455]), ("shit", [0x1F4A9]), ("shoe", [0x1F45E]),
   ("shooting_star", [0x1F320]), ("shopping_bags", [0x1F6CD]), ("shopping_cart", [0x1F6D2]),
   ("shortcake", [0x1F370]), ("shorts", [0x1FA73]), ("shower", [0x1F6BF]), ("shrimp", [0x1F990]),
   ("shuffle_tracks_button", [0x1F500]), ("shushing_face", [0x1F92B]),
   ("sierra_leone", [0x1F1F8, 0x1F1F1]), ("sign_of_the_horns", [0x1F918]),
   ("sign_of_the_horns_dark_skin_tone", [0x1F918, 0x1F3FF]),
   ("sign_of_the_horns_light_skin_tone", [0x1F918, 0x1F3FB]),
   ("sign_of_the_horns_medium-dark_skin_tone", [0x1F918, 0x1F3FE]),
   ("sign_of_the_horns_medium-light_skin_tone", [0x1F918, 0x1F3FC]),
   ("sign_of_the_horns_medium_skin_tone", [0x1F918, 0x1F3FD]), ("signal_strength", [0x1F4F6]),
   ("singapore", [0x1F1F8, 0x1F1EC]), ("sint_maarten", [0x1F1F8, 0x1F1FD]),
   ("six", [0x36, 0xFE0F, 0x20E3]), ("six-thirty", [0x1F561]), ("six_o’clock", [0x1F555]),
   ("six_pointed_star", [0x1F52F]), ("skateboard", [0x1F6F9]), ("ski", [0x1F3BF]),
   ("skier", [0x26F7]), ("skis", [0x1F3BF]), ("skull", [0x1F480]),
   ("skull_and_crossbones", [0x2620]), ("skunk", [0x1F9A8]), ("sled", [0x1F6F7]),
   ("sleeping", [0x1F634]), ("sleeping_accommodation", [0x1F6CC]), ("sleeping_face", [0x1F634]),
   ("sleepy", [0x1F62A]), ("sleepy_face", [0x1F62A]), ("sleuth_or_spy", [0x1F575]),
   ("slightly_frowning_face", [0x1F641]), ("slightly_smiling_face", [0x1F642]),
   ("slot_machine", [0x1F3B0]), ("sloth", [0x1F9A5]), ("slovakia", [0x1F1F8, 0x1F1F0]),
   ("slovenia", [0x1F1F8, 0x1F1EE]), ("small_airplane", [0x1F6E9]),
   ("small_blue_diamond", [0x1F539]), ("small_orange_diamond", [0x1F538]),
   ("small_red_triangle", [0x1F53A]), ("small_red_triangle_down", [0x1F53B]), ("smile", [0x1F604]),
   ("smile_cat", [0x1F638]), ("smiley", [0x1F603]), ("smiley_cat", [0x1F63A]),
   ("smiling_cat_face_with_heart-eyes", [0x1F63B]), ("smiling_face", [0x263A]),
   ("smiling_face_with_3_hearts", [0x1F970]), ("smiling_face_with_halo", [0x1F607]),
   ("smiling_face_with_heart-eyes", [0x1F60D]), ("smiling_face_with_horns", [0x1F608]),
   ("smiling_face_with_smiling_eyes", [0x1F60A]), ("smiling_face_with_sunglasses", [0x1F60E]),
   ("smiling_imp", [0x1F608]), ("smirk", [0x1F60F]), ("smirk_cat", [0x1F63C]),
   ("smirking_face", [0x1F60F]), ("smoking", [0x1F6AC]), ("snail", [0x1F40C]), ("snake", [0x1F40D]),
   ("sneezing_face", [0x1F927]), ("snow-capped_mountain", [0x1F3D4]),
   ("snow_capped_mountain", [0x1F3D4]), ("snowboarder", [0x1F3C2]),
   ("snowboarder_dark_skin_tone", [0x1F3C2, 0x1F3FF]),
   ("snowboarder_light_skin_tone", [0x1F3C2, 0x1F3FB]),
   ("snowboarder_medium-dark_skin_tone", [0x1F3C2, 0x1F3FE]),
   ("snowboarder_medium-light_skin_tone", [0x1F3C2, 0x1F3FC]),
   ("snowboarder_medium_skin_tone", [0x1F3C2, 0x1F3FD]), ("snowflake", [0x2744]),
   ("snowman", [0x2603]), ("snowman_without_snow", [0x26C4]), ("soap", [0x1F9FC]),
   ("sob", [0x1F62D]), ("soccer", [0x26BD]), ("soccer_ball", [0x26BD]), ("socks", [0x1F9E6]),
   ("soft_ice_cream", [0x1F366]), ("softball", [0x1F94E]), ("solomon_islands", [0x1F1F8, 0x1F1E7]),
   ("somalia", [0x1F1F8, 0x1F1F4]), ("soon", [0x1F51C]), ("soon_arrow", [0x1F51C]),
   ("sos", [0x1F198]), ("sos_button", [0x1F198]), ("sound", [0x1F509]),
   ("south_africa", [0x1F1FF, 0x1F1E6]),
   ("south_georgia_&_south_sandwich_islands", [0x1F1EC, 0x1F1F8]),
   ("south_korea", [0x1F1F0, 0x1F1F7]), ("south_sudan", [0x1F1F8, 0x1F1F8]),
   ("space_invader", [0x1F47E]), ("spade_suit", [0x2660]), ("spades", [0x2660]),
   ("spaghetti", [0x1F35D]), ("spain", [0x1F1EA, 0x1F1F8]), ("sparkle", [0x2747]),
   ("sparkler", [0x1F387]), ("sparkles", [0x2728]), ("sparkling_heart", [0x1F496]),
   ("speak-no-evil_monkey", [0x1F64A]), ("speak_no_evil", [0x1F64A]), ("speaker", [0x1F508]),
   ("speaker_high_volume", [0x1F50A]), ("speaker_low_volume", [0x1F508]),
   ("speaker_medium_volume", [0x1F509]), ("speaking_head", [0x1F5E3]),
   ("speaking_head_in_silhouette", [0x1F5E3]), ("speech_balloon", [0x1F4AC]),
   ("speedboat", [0x1F6A4]), ("spider", [0x1F577]), ("spider_web", [0x1F578]),
   ("spiral_calendar", [0x1F5D3]), ("spiral_calendar_pad", [0x1F5D3]),
   ("spiral_note_pad", [0x1F5D2]), ("spiral_notepad", [0x1F5D2]), ("spiral_shell", [0x1F41A]),
   ("sponge", [0x1F9FD]), ("spoon", [0x1F944]), ("sport_utility_vehicle", [0x1F699]),
   ("sports_medal", [0x1F3C5]), ("spouting_whale", [0x1F433]), ("squid", [0x1F991]),
   ("squinting_face_with_tongue", [0x1F61D]), ("sri_lanka", [0x1F1F1, 0x1F1F0]),
   ("st._barthélemy", [0x1F1E7, 0x1F1F1]), ("st._helena", [0x1F1F8, 0x1F1ED]),
   ("st._kitts_&_nevis", [0x1F1F0, 0x1F1F3]), ("st._lucia", [0x1F1F1, 0x1F1E8]),
   ("st._martin", [0x1F1F2, 0x1F1EB]), ("st._pierre_&_miquelon", [0x1F1F5, 0x1F1F2]),
   ("st._vincent_&_grenadines", [0x1F1FB, 0x1F1E8]), ("stadium", [0x1F3DF]), ("star", [0x2B50]),
   ("star-struck", [0x1F929]), ("star2", [0x1F31F]), ("star_and_crescent", [0x262A]),
   ("star_of_david", [0x2721]), ("stars", [0x1F320]), ("station", [0x1F689]),
   ("statue_of_liberty", [0x1F5FD]), ("steam_locomotive", [0x1F682]), ("steaming_bowl", [0x1F35C]),
   ("stethoscope", [0x1FA7A]), ("stew", [0x1F372]), ("stop_button", [0x23F9]),
   ("stop_sign", [0x1F6D1]), ("stopwatch", [0x23F1]), ("straight_ruler", [0x1F4CF]),
   ("strawberry", [0x1F353]), ("stuck_out_tongue", [0x1F61B]),
   ("stuck_out_tongue_closed_eyes", [0x1F61D]), ("stuck_out_tongue_winking_eye", [0x1F61C]),
   ("studio_microphone", [0x1F399]), ("stuffed_flatbread", [0x1F959]),
   ("sudan", [0x1F1F8, 0x1F1E9]), ("sun", [0x2600]), ("sun_behind_cloud", [0x26C5]),
   ("sun_behind_large_cloud", [0x1F325]), ("sun_behind_rain_cloud", [0x1F326]),
   ("sun_behind_small_cloud", [0x1F324]), ("sun_with_face", [0x1F31E]), ("sunflower", [0x1F33B]),
   ("sunglasses", [0x1F60E]), ("sunny", [0x2600]), ("sunrise", [0x1F305]),
   ("sunrise_over_mountains", [0x1F304]), ("sunset", [0x1F307]), ("superhero", [0x1F9B8]),
   ("supervillain", [0x1F9B9]), ("surfer", [0x1F3C4]), ("suriname", [0x1F1F8, 0x1F1F7]),
   ("sushi", [0x1F363]), ("suspension_railway", [0x1F69F]),
   ("svalbard_&_jan_mayen", [0x1F1F8, 0x1F1EF]), ("swan", [0x1F9A2]),
   ("swaziland", [0x1F1F8, 0x1F1FF]), ("sweat", [0x1F613]), ("sweat_droplets", [0x1F4A6]),
   ("sweat_drops", [0x1F4A6]), ("sweat_smile", [0x1F605]), ("sweden", [0x1F1F8, 0x1F1EA]),
   ("sweet_potato", [0x1F360]), ("swimmer", [0x1F3CA]), ("switzerland", [0x1F1E8, 0x1F1ED]),
   ("symbols", [0x1F523]), ("synagogue", [0x1F54D]), ("syria", [0x1F1F8, 0x1F1FE]),
   ("syringe", [0x1F489]), ("são_tomé_&_príncipe", [0x1F1F8, 0x1F1F9])]

end TemplateAudit
